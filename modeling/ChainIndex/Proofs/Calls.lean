import ChainIndex.Proofs.Attempt
import ChainIndex.World

/-!
# What calls answer

A call is counted, and then it fails if the outages of the world say so, or it is answered.
`w.Answers which` says that none of the calls of a kind fails from `w` on; under it every call to an
index is an equation.
-/

set_option autoImplicit false

namespace ChainIndex

open Store (Shelved)
open Indexed (Entity)

namespace World

/-- The world after one more call. -/
def counted (w : World) : World := { w with calls := w.calls + 1 }

def shelve {α π : Type} [Shelved α π] (t : Table String α) (w : World) : World :=
  { w with store := Shelved.setTable t w.store }

/-- None of these calls fails any more. -/
def Answers (which : Call → Prop) (w : World) : Prop :=
  ∀ n, w.calls ≤ n → ∀ call, which call → w.outages.call n call = none

theorem Answers.mono {which more : Call → Prop} {w : World} (h : w.Answers more) (sub : ∀ call, which call → more call) :
    w.Answers which := fun n hn call hc => h n hn call (sub call hc)

@[simp] theorem counted_store (w : World) : w.counted.store = w.store := rfl
@[simp] theorem counted_node (w : World) : w.counted.node = w.node := rfl
@[simp] theorem counted_outages (w : World) : w.counted.outages = w.outages := rfl

@[simp] theorem shelve_store {α π : Type} [Shelved α π] (t : Table String α) (w : World) :
    (w.shelve t).store = Shelved.setTable t w.store := rfl

end World

namespace Act
variable {α π : Type} {w : World}

theorem attempt_of_outage {call : Call} {run : World → Except Error α × World} {e : Error}
    (h : w.outages.call w.calls call = some e) : (attempt call run).run.run w = (.error e, w.counted) := by
  simp only [attempt, ExceptT.run, StateT.run, h]
  rfl

theorem attempt_of_answer {call : Call} {run : World → Except Error α × World}
    (h : w.outages.call w.calls call = none) : (attempt call run).run.run w = run w.counted := by
  simp only [attempt, ExceptT.run, StateT.run, h]
  rfl

theorem leads_attempt {r : World → World → Prop} [IsPreorder World r] (counted : ∀ w : World, r w w.counted)
    {call : Call} {run : World → Except Error α × World} (h : ∀ w, r w (run w).2) :
    Attempt.Leads r (attempt call run).run := by
  intro w
  cases answer : w.outages.call w.calls call with
  | some e =>
    rw [attempt_of_outage answer]
    exact counted w
  | none =>
    rw [attempt_of_answer answer]
    exact trans_of r (counted w) (h _)

theorem ask_cases (call : Call) (answer : Chain.Node → Except Error α) (w : World) :
    (∃ e, w.outages.call w.calls call = some e ∧ (ask call answer).run.run w = (.error e, w.counted)) ∨
      w.outages.call w.calls call = none ∧ (ask call answer).run.run w = (answer w.node, w.counted) := by
  cases h : w.outages.call w.calls call with
  | some e => exact .inl ⟨e, rfl, attempt_of_outage h⟩
  | none => exact .inr ⟨rfl, attempt_of_answer h⟩

theorem read_cases (call : Call) (answer : Store → α) (w : World) :
    (∃ e, w.outages.call w.calls call = some e ∧ (read call answer).run.run w = (.error e, w.counted)) ∨
      w.outages.call w.calls call = none ∧ (read call answer).run.run w = (.ok (answer w.store), w.counted) := by
  cases h : w.outages.call w.calls call with
  | some e => exact .inl ⟨e, rfl, attempt_of_outage h⟩
  | none => exact .inr ⟨rfl, attempt_of_answer h⟩

section
variable [Shelved α π] {which : Call → Prop}

theorem findAll_of_answers (h : w.Answers which) (hc : which (.findAll (Shelved.shelf α))) :
    (findAll α).run.run w = (.ok (Shelved.table w.store : Table String α).values, w.counted) :=
  attempt_of_answer (h w.calls (Nat.le_refl _) _ hc)

theorem find_of_answers (h : w.Answers which) {id : String} (hc : which (.find (Shelved.shelf α) id)) :
    (find α id).run.run w = (.ok ((Shelved.table w.store : Table String α).get? id), w.counted) :=
  attempt_of_answer (h w.calls (Nat.le_refl _) _ hc)

theorem write_of_outage {call : Call} {change : Table String α → Except Error (Table String α)} {e : Error}
    (h : w.outages.call w.calls call = some e) : (write call change).run.run w = (.error e, w.counted) := by
  unfold write
  exact attempt_of_outage h

theorem write_of_ok {call : Call} {change : Table String α → Except Error (Table String α)}
    {t : Table String α} (h : w.outages.call w.calls call = none)
    (ht : change (Shelved.table w.store) = .ok t) :
    (write call change).run.run w = (.ok (), w.counted.shelve t) := by
  unfold write
  rw [attempt_of_answer h]
  simp only [World.counted_store, ht]
  rfl

theorem write_of_refusal {call : Call} {change : Table String α → Except Error (Table String α)}
    {e : Error} (h : w.outages.call w.calls call = none)
    (ht : change (Shelved.table w.store) = .error e) :
    (write call change).run.run w = (.error e, w.counted) := by
  unfold write
  rw [attempt_of_answer h]
  simp only [World.counted_store, ht]

theorem upsert_of_answers (h : w.Answers which) {a : α} (hc : which (.upsert (Shelved.shelf α) (Entity.id a))) :
    (upsert a).run.run w =
      (.ok (), w.counted.shelve ((Shelved.table w.store : Table String α).insert (Entity.id a) a)) :=
  write_of_ok (h w.calls (Nat.le_refl _) _ hc) rfl

theorem delete_of_answers (h : w.Answers which) {id : String} (hc : which (.delete (Shelved.shelf α) id)) :
    (delete α id).run.run w = (.ok (), w.counted.shelve ((Shelved.table w.store : Table String α).erase id)) :=
  write_of_ok (h w.calls (Nat.le_refl _) _ hc) rfl

theorem update_of_answers (h : w.Answers which) {id : String} {patch : π} {a : α}
    (hc : which (.update (Shelved.shelf α) id)) (ha : (Shelved.table w.store : Table String α).get? id = some a) :
    (update α id patch).run.run w =
      (.ok (), w.counted.shelve ((Shelved.table w.store : Table String α).insert id (Entity.patch patch a))) :=
  write_of_ok (h w.calls (Nat.le_refl _) _ hc) (by rw [Index.update, ha])

/-- A write meets an outage, or it is made or refused. -/
theorem write_cases (call : Call) (change : Table String α → Except Error (Table String α)) (w : World) :
    (∃ e, w.outages.call w.calls call = some e ∧ (write call change).run.run w = (.error e, w.counted)) ∨
      w.outages.call w.calls call = none ∧
        ((∃ e, change (Shelved.table w.store) = .error e ∧ (write call change).run.run w = (.error e, w.counted)) ∨
          ∃ t, change (Shelved.table w.store) = .ok t ∧
            (write call change).run.run w = (.ok (), w.counted.shelve t)) := by
  cases h : w.outages.call w.calls call with
  | some e => exact .inl ⟨e, rfl, write_of_outage h⟩
  | none =>
    refine .inr ⟨rfl, ?_⟩
    cases ht : change (Shelved.table w.store) with
    | error e => exact .inl ⟨e, rfl, write_of_refusal h ht⟩
    | ok t => exact .inr ⟨t, rfl, write_of_ok h ht⟩

theorem create_cases (a : α) (w : World) :
    (∃ e, w.outages.call w.calls (.create (Shelved.shelf α) (Entity.id a)) = some e ∧
        (create a).run.run w = (.error e, w.counted)) ∨
      w.outages.call w.calls (.create (Shelved.shelf α) (Entity.id a)) = none ∧
        ((∃ b, (Shelved.table w.store : Table String α).get? (Entity.id a) = some b ∧
            (create a).run.run w =
              (.error (.alreadyExists (Index.describe α (Entity.id a))), w.counted)) ∨
          (Shelved.table w.store : Table String α).get? (Entity.id a) = none ∧
            (create a).run.run w =
              (.ok (), w.counted.shelve ((Shelved.table w.store : Table String α).insert (Entity.id a) a))) := by
  refine (write_cases _ _ w).imp_right (And.imp_right (Or.imp ?_ ?_))
  · rintro ⟨e, refused, run⟩
    unfold Index.create at refused
    split at refused
    · next bound =>
      obtain ⟨b, found⟩ := Option.isSome_iff_exists.mp bound
      cases refused
      exact ⟨b, found, run⟩
    · cases refused
  · rintro ⟨t, made, run⟩
    unfold Index.create at made
    split at made
    · cases made
    · next free =>
      cases made
      exact ⟨Option.not_isSome_iff_eq_none.mp free, run⟩

/-- A write that is not refused meets an outage or is made. -/
theorem write_cases_of_ok {call : Call} {change : Table String α → Except Error (Table String α)} {w : World}
    {t : Table String α} (accepted : change (Shelved.table w.store) = .ok t) :
    (∃ e, w.outages.call w.calls call = some e ∧ (write call change).run.run w = (.error e, w.counted)) ∨
      (write call change).run.run w = (.ok (), w.counted.shelve t) := by
  refine (write_cases call change w).imp_right ?_
  rintro ⟨-, ⟨e, refused, -⟩ | ⟨t', made, run⟩⟩
  · cases accepted.symm.trans refused
  · cases accepted.symm.trans made
    exact run

theorem upsert_cases (a : α) (w : World) :
    (∃ e, w.outages.call w.calls (.upsert (Shelved.shelf α) (Entity.id a)) = some e ∧
        (upsert a).run.run w = (.error e, w.counted)) ∨
      (upsert a).run.run w =
        (.ok (), w.counted.shelve ((Shelved.table w.store : Table String α).insert (Entity.id a) a)) :=
  write_cases_of_ok rfl

theorem delete_cases (α : Type) {π : Type} [Shelved α π] (id : String) (w : World) :
    (∃ e, w.outages.call w.calls (.delete (Shelved.shelf α) id) = some e ∧
        (delete α id).run.run w = (.error e, w.counted)) ∨
      (delete α id).run.run w = (.ok (), w.counted.shelve ((Shelved.table w.store : Table String α).erase id)) :=
  write_cases_of_ok rfl

/-- An update of a record that is there meets an outage or is made. -/
theorem update_cases {id : String} {a : α} {w : World} (ha : (Shelved.table w.store : Table String α).get? id = some a)
    (patch : π) :
    (∃ e, w.outages.call w.calls (.update (Shelved.shelf α) id) = some e ∧
        (update α id patch).run.run w = (.error e, w.counted)) ∨
      (update α id patch).run.run w =
        (.ok (), w.counted.shelve ((Shelved.table w.store : Table String α).insert id (Entity.patch patch a))) :=
  write_cases_of_ok (by rw [Index.update, ha])

end

/-! ### Calls in two worlds -/

/-- A call fails in both of two related worlds or in none, and leaves them related. -/
structure FailsAlike (r : World → World → Prop) (call : Call) : Prop where
  counted : ∀ {a b : World}, r a b → r a.counted b.counted
  outage : ∀ {a b : World}, r a b → a.outages.call a.calls call = b.outages.call b.calls call

namespace FailsAlike
open Attempt (Matches Parallel)
variable {r : World → World → Prop} {call : Call} (fails : FailsAlike r call)
include fails

theorem attempt {β : Type} {v : Except Error α → Except Error β → Prop} (wrong : ∀ e, v (.error e) (.error e))
    {run : World → Except Error α × World} {run' : World → Except Error β × World}
    (h : Matches r v (run : StateM World (Except Error α)) (run' : StateM World (Except Error β))) :
    Matches r v (Act.attempt call run).run (Act.attempt call run').run := by
  intro a b related
  cases answer : b.outages.call b.calls call with
  | some e =>
    rw [attempt_of_outage answer, attempt_of_outage ((fails.outage related).trans answer)]
    exact ⟨wrong e, fails.counted related⟩
  | none =>
    rw [attempt_of_answer answer, attempt_of_answer ((fails.outage related).trans answer)]
    exact h _ _ (fails.counted related)

theorem write [Shelved α π]
    (table : ∀ {a b : World}, r a b → (Shelved.table a.store : Table String α) = Shelved.table b.store)
    (shelve : ∀ {a b : World}, r a b → ∀ t : Table String α, r (a.shelve t) (b.shelve t))
    (change : Table String α → Except Error (Table String α)) : Parallel r (Act.write call change).run := by
  refine fails.attempt (fun _ => rfl) fun a b related => ?_
  simp only [StateT.run, table related]
  cases change (Shelved.table b.store) with
  | ok t => exact ⟨rfl, shelve related t⟩
  | error e => exact ⟨rfl, related⟩

end FailsAlike

/-! ### What writes lead to -/

section
variable [Shelved α π] {r : World → World → Prop} [IsPreorder World r]

theorem leads_write (counted : ∀ w : World, r w w.counted) {call : Call}
    {change : Table String α → Except Error (Table String α)}
    (h : ∀ w t, change (Shelved.table w.store) = .ok t → r w (w.shelve t)) : Attempt.Leads r (write call change).run := by
  refine leads_attempt counted fun w => ?_
  split
  · next t ht => exact h w t ht
  · exact refl_of r w

/-- A record is created where there was none. -/
theorem leads_create (counted : ∀ w : World, r w w.counted) {a : α}
    (h : ∀ w, (Shelved.table w.store : Table String α).get? (Entity.id a) = none →
      r w (w.shelve ((Shelved.table w.store : Table String α).insert (Entity.id a) a))) :
    Attempt.Leads r (create a).run := by
  refine leads_write counted fun w t changed => ?_
  unfold Index.create at changed
  split at changed
  · cases changed
  · next free =>
    cases changed
    exact h w (Option.not_isSome_iff_eq_none.mp free)

theorem leads_upsert (counted : ∀ w : World, r w w.counted) {a : α}
    (h : ∀ w, r w (w.shelve ((Shelved.table w.store : Table String α).insert (Entity.id a) a))) :
    Attempt.Leads r (upsert a).run := by
  refine leads_write counted fun w t changed => ?_
  cases changed
  exact h w

theorem leads_delete (counted : ∀ w : World, r w w.counted) {id : String}
    (h : ∀ w, r w (w.shelve ((Shelved.table w.store : Table String α).erase id))) :
    Attempt.Leads r (delete α id).run := by
  refine leads_write counted fun w t changed => ?_
  cases changed
  exact h w

/-- A record is updated where there was one. -/
theorem leads_update (counted : ∀ w : World, r w w.counted) {id : String} {patch : π}
    (h : ∀ w (a : α), (Shelved.table w.store : Table String α).get? id = some a →
      r w (w.shelve ((Shelved.table w.store : Table String α).insert id (Entity.patch patch a)))) :
    Attempt.Leads r (update α id patch).run := by
  refine leads_write counted fun w t changed => ?_
  unfold Index.update at changed
  split at changed
  · next a ha =>
    cases changed
    exact h w a ha
  · cases changed

end

end Act

end ChainIndex
