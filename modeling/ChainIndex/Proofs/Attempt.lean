import ChainIndex.Attempt
import Mathlib.Data.List.Forall2
import Mathlib.Order.Defs.Unbundled

/-!
# Runs of attempts

What a piece of work gives and leaves, part by part: a sequence of two pieces runs the second one from
the state that the first one left, unless the first one ended with an error. `Leads r` says of a piece
of work that it leads from every state to a related one; for a preorder that follows from the pieces.
-/

set_option autoImplicit false

namespace ChainIndex.Attempt

variable {σ ε α β : Type}

/-! ### Work on a state -/

theorem state_bind (x : StateM σ α) (f : α → StateM σ β) (s : σ) :
    (x >>= f).run s = (f (x.run s).1).run (x.run s).2 := rfl

theorem state_pure (a : α) (s : σ) : (pure a : StateM σ α).run s = (a, s) := rfl

/-! ### Work that may end with an error -/

theorem run_lift (x : StateM σ α) (s : σ) :
    (liftM x : ExceptT ε (StateM σ) α).run.run s = (.ok (x.run s).1, (x.run s).2) := rfl

theorem run_result (x : Attempt σ α) (s : σ) :
    (result x).run.run s = (.ok (x.run.run s).1, (x.run.run s).2) := rfl

section
variable {x : ExceptT ε (StateM σ) α} {f : α → ExceptT ε (StateM σ) β} {s t : σ}

theorem run_bind_of_ok {a : α} (h : x.run.run s = (.ok a, t)) :
    (x >>= f).run.run s = (f a).run.run t := by
  have step : (x >>= f).run.run s = (ExceptT.bindCont f (x.run.run s).1).run (x.run.run s).2 := rfl
  rw [step, h]
  rfl

theorem run_bind_of_error {e : ε} (h : x.run.run s = (.error e, t)) :
    (x >>= f).run.run s = (.error e, t) := by
  have step : (x >>= f).run.run s = (ExceptT.bindCont f (x.run.run s).1).run (x.run.run s).2 := rfl
  rw [step, h]
  rfl

/-- The first piece of a sequence ends with an error, or hands its value and its state on. -/
theorem run_bind_cases (x : ExceptT ε (StateM σ) α) (f : α → ExceptT ε (StateM σ) β) (s : σ) :
    (∃ e t, x.run.run s = (.error e, t) ∧ (x >>= f).run.run s = (.error e, t)) ∨
      ∃ a t, x.run.run s = (.ok a, t) ∧ (x >>= f).run.run s = (f a).run.run t := by
  rcases h : x.run.run s with ⟨e | a, t⟩
  · exact .inl ⟨e, t, rfl, run_bind_of_error h⟩
  · exact .inr ⟨a, t, rfl, run_bind_of_ok h⟩

/-- The result of a sequence follows from the results of its pieces. -/
theorem run_bind_fst {y : Except ε α} {g : α → Except ε β} (hx : (x.run.run s).1 = y)
    (hf : ∀ a t, x.run.run s = (.ok a, t) → ((f a).run.run t).1 = g a) : ((x >>= f).run.run s).1 = (y >>= g) := by
  subst hx
  rcases run_bind_cases x f s with ⟨e, t, h, both⟩ | ⟨a, t, h, both⟩
  · rw [both, h]
    rfl
  · rw [both, h, hf a t h]
    rfl

/-- What holds behind the first piece of a sequence, and behind the second one if it is reached, holds behind
the sequence. -/
theorem run_bind_snd {p : σ → Prop} (hx : p (x.run.run s).2)
    (hf : ∀ a t, x.run.run s = (.ok a, t) → p ((f a).run.run t).2) : p ((x >>= f).run.run s).2 := by
  rcases run_bind_cases x f s with ⟨e, t, h, both⟩ | ⟨a, t, h, both⟩
  · rw [both]
    rw [h] at hx
    exact hx
  · rw [both]
    exact hf a t h

theorem run_bind_eq_ok {b : β} {u : σ} (h : (x >>= f).run.run s = (.ok b, u)) :
    ∃ a t, x.run.run s = (.ok a, t) ∧ (f a).run.run t = (.ok b, u) := by
  rcases run_bind_cases x f s with ⟨e, t, -, he⟩ | ⟨a, t, hx, hf⟩
  · rw [he] at h
    cases h
  · exact ⟨a, t, hx, hf ▸ h⟩

end

/-! ### Lists of attempts -/

theorem forEach_cons (work : α → Attempt σ β) (a : α) (rest : List α) (s : σ) :
    (forEach work (a :: rest)).run s =
      (((work a).run.run s).1 :: ((forEach work rest).run ((work a).run.run s).2).1,
        ((forEach work rest).run ((work a).run.run s).2).2) := rfl

theorem length_forEach (work : α → Attempt σ β) (l : List α) (s : σ) : ((forEach work l).run s).1.length = l.length := by
  induction l generalizing s with
  | nil => rfl
  | cons a l ih => rw [forEach_cons, List.length_cons, ih, List.length_cons]

theorem successes_le (work : α → Attempt σ β) (l : List α) (s : σ) :
    successes ((forEach work l).run s).1 ≤ l.length :=
  length_forEach work l s ▸ List.countP_le_length

/-- Where each attempt reaches the goal of its item, and none undoes a goal that was reached, all goals are
reached in the end. -/
theorem forEach_reaches (work : α → Attempt σ β) (inv : σ → Prop) (goal : α → σ → Prop) {l : List α}
    (step : ∀ a ∈ l, ∀ s, inv s → inv ((work a).run.run s).2 ∧ goal a ((work a).run.run s).2)
    (kept : ∀ a ∈ l, ∀ b s, inv s → goal b s → goal b ((work a).run.run s).2) {s : σ} (h : inv s) :
    inv ((forEach work l).run s).2 ∧ (∀ b, goal b s → goal b ((forEach work l).run s).2) ∧
      ∀ a ∈ l, goal a ((forEach work l).run s).2 := by
  induction l generalizing s with
  | nil => exact ⟨h, fun _ hb => hb, nofun⟩
  | cons a l ih =>
    obtain ⟨after, reached⟩ := step a List.mem_cons_self s h
    obtain ⟨after, more, all⟩ := ih (fun b hb => step b (List.mem_cons_of_mem a hb))
      (fun b hb => kept b (List.mem_cons_of_mem a hb)) after
    refine ⟨after, fun b hb => more b (kept a List.mem_cons_self b s h hb), fun b hb => ?_⟩
    rcases List.mem_cons.mp hb with rfl | hb
    · exact more b reached
    · exact all b hb

/-! ### Work put together from pieces -/

/-- Work that is put together from pieces of these kinds. -/
inductive Uses (kinds : (α : Type) → StateM σ α → Prop) : {α : Type} → StateM σ α → Prop
  | piece {α : Type} {work : StateM σ α} (h : kinds α work) : Uses kinds work
  | pure {α : Type} (a : α) : Uses kinds (pure a)
  | bind {α β : Type} {x : StateM σ α} {f : α → StateM σ β} (hx : Uses kinds x) (hf : ∀ a, Uses kinds (f a)) :
      Uses kinds (x >>= f)

namespace Uses
variable {kinds : (α : Type) → StateM σ α → Prop}

theorem ok (a : α) : Uses kinds (Pure.pure a : ExceptT ε (StateM σ) α).run := pure _

theorem throw (e : ε) : Uses kinds (MonadExcept.throw e : ExceptT ε (StateM σ) α).run := pure _

theorem seq {x : ExceptT ε (StateM σ) α} {f : α → ExceptT ε (StateM σ) β} (hx : Uses kinds x.run)
    (hf : ∀ a, Uses kinds (f a).run) : Uses kinds (x >>= f).run := by
  show Uses kinds (x.run >>= ExceptT.bindCont f)
  refine bind hx fun result => ?_
  cases result with
  | ok a => exact hf a
  | error e => exact pure _

theorem lift {x : StateM σ α} (hx : Uses kinds x) : Uses kinds (liftM x : ExceptT ε (StateM σ) α).run :=
  bind hx fun _ => pure _

theorem result {x : Attempt σ α} (hx : Uses kinds x.run) : Uses kinds (Attempt.result x).run := lift hx

theorem forEach {work : α → Attempt σ β} {l : List α} (h : ∀ a ∈ l, Uses kinds (work a).run) :
    Uses kinds (Attempt.forEach work l) := by
  induction l with
  | nil => exact pure _
  | cons a l ih =>
    refine bind (h a List.mem_cons_self) fun _ => bind ?_ fun _ => pure _
    exact ih fun b hb => h b (List.mem_cons_of_mem _ hb)

theorem collect {work : α → Attempt σ β} {l : List α} (h : ∀ a ∈ l, Uses kinds (work a).run) :
    Uses kinds (Attempt.collect work l).run := by
  induction l with
  | nil => exact ok _
  | cons a l ih =>
    refine seq (h a List.mem_cons_self) fun _ => seq ?_ fun _ => ok _
    exact ih fun b hb => h b (List.mem_cons_of_mem _ hb)

/-- Pieces may be put together from smaller pieces. -/
theorem expand {smaller : (α : Type) → StateM σ α → Prop} (h : ∀ {α work}, kinds α work → Uses smaller work)
    {work : StateM σ α} (uses : Uses kinds work) : Uses smaller work := by
  induction uses with
  | piece hk => exact h hk
  | pure a => exact pure a
  | bind _ _ hx hf => exact bind hx hf

end Uses

/-! ### The states before and after -/

/-- Work that leads from every state to a related one, whatever its result. -/
def Leads (r : σ → σ → Prop) (work : StateM σ α) : Prop := ∀ s, r s (work.run s).2

/-- Where every piece leads to a related state the whole does. -/
theorem Uses.leads {kinds : (α : Type) → StateM σ α → Prop} {r : σ → σ → Prop} [IsPreorder σ r]
    (h : ∀ {α work}, kinds α work → Leads r work) {work : StateM σ α} (uses : Uses kinds work) : Leads r work := by
  induction uses with
  | piece hk => exact h hk
  | pure a => exact fun s => refl_of r s
  | bind _ _ hx hf =>
    intro s
    rw [state_bind]
    exact trans_of r (hx s) (hf _ _)

namespace Leads
variable {r : σ → σ → Prop}

theorem uses {work : StateM σ α} (h : Leads r work) : Uses (fun _ => Leads r) work := .piece h

theorem lift {x : StateM σ α} (hx : Leads r x) : Leads r (liftM x : ExceptT ε (StateM σ) α).run := hx

section
variable [IsPreorder σ r]

theorem pure (a : α) : Leads r (Pure.pure a : StateM σ α) := fun s => refl_of r s

theorem get : Leads r (MonadState.get : StateM σ σ) := fun s => refl_of r s

theorem ok (a : α) : Leads r (Pure.pure a : ExceptT ε (StateM σ) α).run := fun s => refl_of r s

theorem throw (e : ε) : Leads r (MonadExcept.throw e : ExceptT ε (StateM σ) α).run := fun s => refl_of r s

theorem bind {x : StateM σ α} {f : α → StateM σ β} (hx : Leads r x) (hf : ∀ a, Leads r (f a)) : Leads r (x >>= f) :=
  Uses.leads id (.bind hx.uses fun a => (hf a).uses)

theorem seq {x : ExceptT ε (StateM σ) α} {f : α → ExceptT ε (StateM σ) β} (hx : Leads r x.run)
    (hf : ∀ a, Leads r (f a).run) : Leads r (x >>= f).run :=
  Uses.leads id (.seq hx.uses fun a => (hf a).uses)

theorem forEach {work : α → Attempt σ β} {l : List α} (h : ∀ a ∈ l, Leads r (work a).run) :
    Leads r (Attempt.forEach work l) :=
  Uses.leads id (.forEach fun a ha => (h a ha).uses)

theorem collect {work : α → Attempt σ β} {l : List α} (h : ∀ a ∈ l, Leads r (work a).run) :
    Leads r (Attempt.collect work l).run :=
  Uses.leads id (.collect fun a ha => (h a ha).uses)

end

end Leads

/-! ### Two runs -/

/-- Two works that give related values from related states and leave them related. -/
def Matches (r : σ → σ → Prop) (v : α → β → Prop) (x : StateM σ α) (y : StateM σ β) : Prop :=
  ∀ s t, r s t → v (x.run s).1 (y.run t).1 ∧ r (x.run s).2 (y.run t).2

/-- Work that gives the same value from related states and leaves them related. -/
def Parallel (r : σ → σ → Prop) (work : StateM σ α) : Prop := Matches r Eq work work

/-- Two results that are the same error or related values. -/
inductive Agree (v : α → β → Prop) : Except ε α → Except ε β → Prop
  | ok {a : α} {b : β} (h : v a b) : Agree v (.ok a) (.ok b)
  | error (e : ε) : Agree v (.error e) (.error e)

namespace Matches
variable {r : σ → σ → Prop} {γ δ : Type} {v : α → β → Prop} {u : γ → δ → Prop}

theorem pure {a : α} {b : β} (h : v a b) : Matches r v (Pure.pure a) (Pure.pure b) := fun _ _ hr => ⟨h, hr⟩

theorem bind {x : StateM σ α} {y : StateM σ β} {f : α → StateM σ γ} {g : β → StateM σ δ} (hx : Matches r v x y)
    (hf : ∀ a b, v a b → Matches r u (f a) (g b)) : Matches r u (x >>= f) (y >>= g) := by
  intro s t hr
  obtain ⟨values, after⟩ := hx s t hr
  rw [state_bind, state_bind]
  exact hf _ _ values _ _ after

/-- In sequences of attempts the second ones only have to match where the first ones did not fail. -/
theorem seq {x : ExceptT ε (StateM σ) α} {y : ExceptT ε (StateM σ) β} {f : α → ExceptT ε (StateM σ) γ}
    {g : β → ExceptT ε (StateM σ) γ} (hx : Matches r (Agree v) x.run y.run)
    (hf : ∀ a b, v a b → Matches r Eq (f a).run (g b).run) : Matches r Eq (x >>= f).run (y >>= g).run := by
  show Matches r Eq (x.run >>= ExceptT.bindCont f) (y.run >>= ExceptT.bindCont g)
  refine bind hx fun a b results => ?_
  cases results with
  | ok h => exact hf _ _ h
  | error e => exact pure rfl

/-- Related values are mapped to related values. -/
theorem map {x : ExceptT ε (StateM σ) α} {y : ExceptT ε (StateM σ) β} {f : α → γ} {g : β → δ}
    (hx : Matches r (Agree v) x.run y.run) (hf : ∀ a b, v a b → u (f a) (g b)) :
    Matches r (Agree u) (x >>= fun a => Pure.pure (f a)).run (y >>= fun b => Pure.pure (g b)).run := by
  show Matches r (Agree u) (x.run >>= ExceptT.bindCont _) (y.run >>= ExceptT.bindCont _)
  refine bind hx fun a b results => ?_
  cases results with
  | ok h => exact pure (.ok (hf _ _ h))
  | error e => exact pure (.error e)

theorem agree {x y : StateM σ (Except ε α)} (h : Matches r Eq x y) : Matches r (Agree Eq) x y := by
  intro s t hr
  obtain ⟨same, after⟩ := h s t hr
  refine ⟨?_, after⟩
  rw [same]
  cases (y.run t).1 with
  | ok a => exact .ok rfl
  | error e => exact .error e

theorem seqEq {x y : ExceptT ε (StateM σ) α} {f g : α → ExceptT ε (StateM σ) γ} (hx : Matches r Eq x.run y.run)
    (hf : ∀ a, Matches r Eq (f a).run (g a).run) : Matches r Eq (x >>= f).run (y >>= g).run :=
  seq hx.agree fun a _ same => same ▸ hf a

theorem lift {x y : StateM σ α} (h : Matches r Eq x y) :
    Matches r Eq (liftM x : ExceptT ε (StateM σ) α).run (liftM y : ExceptT ε (StateM σ) α).run :=
  bind h fun _ _ same => pure (congrArg Except.ok same)

theorem result {x y : Attempt σ α} (h : Matches r Eq x.run y.run) :
    Matches r Eq (Attempt.result x).run (Attempt.result y).run := lift h

theorem forEach {work : α → Attempt σ γ} {work' : β → Attempt σ γ} {l : List α} {l' : List β}
    (items : List.Forall₂ v l l') (h : ∀ a b, v a b → Matches r Eq (work a).run (work' b).run) :
    Matches r Eq (Attempt.forEach work l) (Attempt.forEach work' l') := by
  induction items with
  | nil => exact pure rfl
  | cons item _ ih =>
    refine bind (h _ _ item) fun _ _ first => bind ih fun _ _ rest => pure ?_
    rw [first, rest]

end Matches

/-- Where every piece runs in parallel the whole does. -/
theorem Uses.parallel {kinds : (α : Type) → StateM σ α → Prop} {r : σ → σ → Prop}
    (h : ∀ {α work}, kinds α work → Parallel r work) {work : StateM σ α} (uses : Uses kinds work) :
    Parallel r work := by
  induction uses with
  | piece hk => exact h hk
  | pure a => exact .pure rfl
  | bind _ _ hx hf => exact .bind hx fun a _ same => same ▸ hf a

end ChainIndex.Attempt
