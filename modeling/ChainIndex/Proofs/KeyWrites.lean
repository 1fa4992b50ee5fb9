import ChainIndex.Proofs.KeptKeys

/-!
# The writes of a synchronisation

A synchronisation is a list of operations on the index of keys, and an operation is one write or two. An operation
goes on up to the first of its writes that fails, and the others are made whatever becomes of it. So the index that
is left is told by the operations and the numbers of the calls that fail (`KeyWrite.Made`), also where the
synchronisation does not succeed. A write fails where its call does or where the key that it updates is not there, and
the second never happens where every key stands under its own id (`KeySync.fails_of_made`).
-/

set_option autoImplicit false

namespace ChainIndex

open Indexed (AccountKey keyId)

/-! ### Calls that failed -/

/-- One of these calls fails among those from the first number on and in front of the second. -/
def Outages.Fails (outages : Outages) (which : Call → Prop) (n m : Nat) : Prop :=
  ∃ k call, n ≤ k ∧ k < m ∧ which call ∧ (outages.call k call).isSome

/-- From `w` to `w'` one of these calls failed. -/
def World.Failed (which : Call → Prop) (w w' : World) : Prop := w.outages.Fails which w.calls w'.calls

section
variable {outages : Outages} {which more : Call → Prop} {n m : Nat} {call : Call} {w v v' w' : World}

theorem Outages.Fails.here (fails : (outages.call n call).isSome) (hc : which call) : outages.Fails which n (n + 1) :=
  ⟨n, call, Nat.le_refl n, Nat.lt_succ_self n, hc, fails⟩

theorem Outages.Fails.within {n' m' : Nat} (h : outages.Fails which n m) (first : n' ≤ n) (last : m ≤ m') :
    outages.Fails which n' m' := by
  obtain ⟨k, call, from_n, below, hc, fails⟩ := h
  exact ⟨k, call, Nat.le_trans first from_n, Nat.lt_of_lt_of_le below last, hc, fails⟩

namespace World.Failed

theorem of_outage {e : Error} (outage : w.outages.call w.calls call = some e) (hc : which call) :
    w.Failed which w.counted :=
  Outages.Fails.here (by rw [outage]; rfl) hc

theorem within {before after : List Part} (h : w.Within before v) (failed : v.Failed which v')
    (h' : v'.Within after w') : w.Failed which w' := by
  unfold World.Failed at failed
  rw [h.outages] at failed
  exact Outages.Fails.within failed h.calls h'.calls

theorem mono (failed : w.Failed which w') (sub : ∀ call, which call → more call) : w.Failed more w' := by
  obtain ⟨k, call, first, last, hc, fails⟩ := failed
  exact ⟨k, call, first, last, sub call hc, fails⟩

end World.Failed

end

/-! ### Writes -/

/-- A write to the index of keys. -/
inductive KeyWrite where
  | upsert (k : AccountKey)
  | update (k : AccountKey)
  | delete (id : String)

namespace KeyWrite

def call : KeyWrite → Call
  | upsert k => .upsert .key k.id
  | update k => .update .key k.id
  | delete id => .delete .key id

theorem on_key (write : KeyWrite) : Call.On .key write.call := by
  cases write <;> rfl

/-- The id that is written, and what stands there then. -/
def edit : KeyWrite → String × Option AccountKey
  | upsert k | update k => (k.id, some k)
  | delete id => (id, none)

/-- Only what is there is updated. -/
def refused (t : Table String AccountKey) : KeyWrite → Bool
  | update k => !t.contains k.id
  | upsert _ | delete _ => false

/-- What becomes of the index. -/
def change : KeyWrite → Table String AccountKey → Except Error (Table String AccountKey)
  | upsert k => fun t => .ok (Index.upsert k t)
  | update k => Index.update (α := AccountKey) k.id k
  | delete id => fun t => .ok (Index.delete (α := AccountKey) id t)

def act (write : KeyWrite) : Act Unit := Act.write write.call write.change

/-- Makes writes in turn, up to the first one that fails. -/
def inTurn : List KeyWrite → Act Unit
  | [] => pure ()
  | write :: rest => do
    write.act
    inTurn rest

variable {outages : Outages} {n m : Nat} {t t' u : Table String AccountKey}

/-- Writes lead from one table to another: they are made in turn, each by the call with the next number, up to the
first one whose call fails or that is refused, and it is told whether that is all of them. -/
inductive Turn (outages : Outages) :
    Nat → Table String AccountKey → List KeyWrite → Bool → Nat → Table String AccountKey → Prop
  | done (n : Nat) (t : Table String AccountKey) : Turn outages n t [] true n t
  | stopped {n : Nat} {t : Table String AccountKey} {write : KeyWrite} (rest : List KeyWrite)
      (fails : (outages.call n write.call).isSome ∨ write.refused t = true) :
      Turn outages n t (write :: rest) false (n + 1) t
  | made {n m : Nat} {t t' : Table String AccountKey} {write : KeyWrite} {rest : List KeyWrite} {whole : Bool}
      (answered : outages.call n write.call = none) (accepted : write.refused t = false)
      (others : Turn outages (n + 1) (t.edit [write.edit]) rest whole m t') :
      Turn outages n t (write :: rest) whole m t'

/-- Operations lead from one table to another: each of them makes its writes in turn, and so many of them break
off. -/
inductive Made (outages : Outages) :
    Nat → Table String AccountKey → List (List KeyWrite) → Nat → Nat → Table String AccountKey → Prop
  | done (n : Nat) (t : Table String AccountKey) : Made outages n t [] 0 n t
  | next {n m l : Nat} {t t' u : Table String AccountKey} {operation : List KeyWrite} {rest : List (List KeyWrite)}
      {whole : Bool} {broken : Nat} (first : Turn outages n t operation whole m t')
      (others : Made outages m t' rest broken l u) : Made outages n t (operation :: rest) ((!whole).toNat + broken) l u

/-! ### What is left -/

theorem Turn.le {writes : List KeyWrite} {whole : Bool} (turn : Turn outages n t writes whole m t') : n ≤ m := by
  induction turn with
  | done n t => exact Nat.le_refl n
  | stopped rest fails => exact Nat.le_succ _
  | made answered accepted others ih => exact Nat.le_of_succ_le ih

theorem Made.le {operations : List (List KeyWrite)} {broken : Nat} (made : Made outages n t operations broken m t') :
    n ≤ m := by
  induction made with
  | done n t => exact Nat.le_refl n
  | next first others ih => exact Nat.le_trans first.le ih

theorem Made.append {first second : List (List KeyWrite)} {a b l : Nat} (h : Made outages n t first a m t')
    (h' : Made outages m t' second b l u) : Made outages n t (first ++ second) (a + b) l u := by
  induction h with
  | done n t => rwa [Nat.zero_add]
  | next turn others ih =>
    rw [Nat.add_assoc]
    exact .next turn (ih h')

theorem Made.split {first second : List (List KeyWrite)} {broken l : Nat}
    (h : Made outages n t (first ++ second) broken l u) :
    ∃ a b m t', Made outages n t first a m t' ∧ Made outages m t' second b l u ∧ broken = a + b := by
  induction first generalizing n t broken with
  | nil => exact ⟨0, broken, n, t, .done n t, h, (Nat.zero_add broken).symm⟩
  | cons operation first ih =>
    rcases h with _ | ⟨turn, others⟩
    obtain ⟨a, b, m, t', front, back, rfl⟩ := ih others
    exact ⟨_, b, m, t', .next turn front, back, (Nat.add_assoc ..).symm⟩

/-- Writes leave alone what stands under other ids. -/
theorem Turn.get?_of_ne {writes : List KeyWrite} {whole : Bool} {id : String}
    (turn : Turn outages n t writes whole m t') (others : ∀ write ∈ writes, id ≠ write.edit.1) :
    t'.get? id = t.get? id := by
  induction turn with
  | done n t => rfl
  | stopped rest fails => rfl
  | made answered accepted _ ih =>
    rw [ih fun write h => others write (List.mem_cons_of_mem _ h)]
    exact Table.get?_edit_of_ne _ (others _ List.mem_cons_self)

theorem Made.get?_of_ne {operations : List (List KeyWrite)} {broken : Nat} {id : String}
    (made : Made outages n t operations broken m t')
    (others : ∀ operation ∈ operations, ∀ write ∈ operation, id ≠ write.edit.1) : t'.get? id = t.get? id := by
  induction made with
  | done n t => rfl
  | next first _ ih =>
    rw [ih fun operation h => others operation (List.mem_cons_of_mem _ h)]
    exact first.get?_of_ne (others _ List.mem_cons_self)

theorem Turn.edit_eq {writes : List KeyWrite} (turn : Turn outages n t writes true m t') :
    t' = t.edit (writes.map edit) := by
  induction writes generalizing n t with
  | nil =>
    cases turn
    rfl
  | cons write rest ih =>
    rcases turn with _ | _ | ⟨-, -, others⟩
    exact ih others

/-- Where none of them breaks off operations are made with all their writes. -/
theorem Made.edit_eq {operations : List (List KeyWrite)} (made : Made outages n t operations 0 m t') :
    t' = t.edit (operations.flatten.map edit) := by
  induction operations generalizing n t with
  | nil =>
    cases made
    rfl
  | cons operation rest ih =>
    generalize none : 0 = broken at made
    rcases made with _ | @⟨_, _, _, _, v, _, _, _, whole, broken, first, others⟩
    obtain ⟨rfl, rfl⟩ : whole = true ∧ broken = 0 := by
      cases whole <;> simp at none ⊢ <;> omega
    rw [List.flatten_cons, List.map_append, Table.edit_append, ← first.edit_eq]
    exact ih others

/-- If no operation breaks off without a failing call, and each keeps what those behind it need, then a call fails or
none of them breaks off. -/
theorem Made.fails_or {β : Type} {writes : β → List KeyWrite} {l : List β} {which : Call → Prop}
    (ready : List β → Table String AccountKey → Prop)
    (step : ∀ b rest n m t t' whole, b ∈ l → ready (b :: rest) t → Turn outages n t (writes b) whole m t' →
      ready rest t' ∧ (whole = true ∨ outages.Fails which n m))
    {broken : Nat} (made : Made outages n t (l.map writes) broken m t') (h : ready l t) :
    ready [] t' ∧ (broken = 0 ∨ outages.Fails which n m) := by
  induction l generalizing n t broken with
  | nil =>
    cases made
    exact ⟨h, .inl rfl⟩
  | cons b l ih =>
    rcases made with _ | ⟨turn, others⟩
    obtain ⟨next, first⟩ := step b l _ _ _ _ _ List.mem_cons_self h turn
    obtain ⟨done, rest⟩ :=
      ih (fun b' rest n m t t' whole hb => step b' rest n m t t' whole (List.mem_cons_of_mem _ hb)) others next
    refine ⟨done, ?_⟩
    rcases first with rfl | fails
    · exact rest.imp (fun none => by rw [none]; rfl) fun fails => fails.within turn.le (Nat.le_refl _)
    · exact .inr (fails.within (Nat.le_refl _) others.le)

/-! ### What calls do -/

theorem change_of_accepted {write : KeyWrite} (accepted : write.refused t = false) :
    write.change t = .ok (t.edit [write.edit]) := by
  cases write with
  | upsert k | delete id => rfl
  | update k =>
    have bound : (t.get? k.id).isSome := by simpa [refused, Table.contains] using accepted
    obtain ⟨old, found⟩ := Option.isSome_iff_exists.mp bound
    show Index.update (α := AccountKey) k.id k t = _
    rw [Index.update, found]
    rfl

theorem change_of_refused {write : KeyWrite} (refused : write.refused t = true) : ∃ e, write.change t = .error e := by
  cases write with
  | upsert k | delete id => cases refused
  | update k =>
    have missing : t.get? k.id = none := by simpa [KeyWrite.refused, Table.contains] using refused
    exact ⟨.notFound (Index.describe AccountKey k.id), by rw [change, Index.update, missing]⟩

/-- A write fails because its call does or because it is refused, or it is made. -/
theorem act_cases (write : KeyWrite) (w : World) :
    (∃ e, write.act.run.run w = (.error e, w.counted) ∧
        ((w.outages.call w.calls write.call).isSome ∨ write.refused w.store.keys = true)) ∨
      w.outages.call w.calls write.call = none ∧ write.refused w.store.keys = false ∧
        write.act.run.run w = (.ok (), w.counted.shelve (w.store.keys.edit [write.edit])) := by
  rcases Act.write_cases write.call write.change w with
    ⟨e, outage, run⟩ | ⟨answered, ⟨e, changed, run⟩ | ⟨t, changed, run⟩⟩
  · exact .inl ⟨e, run, .inl (by rw [outage]; rfl)⟩
  · refine .inl ⟨e, run, .inr ?_⟩
    by_contra accepted
    cases changed.symm.trans (change_of_accepted (Bool.not_eq_true _ ▸ accepted))
  · have accepted : write.refused w.store.keys = false := by
      by_contra refused
      obtain ⟨e, refuses⟩ := change_of_refused (Bool.not_eq_false _ ▸ refused)
      cases changed.symm.trans refuses
    obtain rfl := Except.ok.inj (changed.symm.trans (change_of_accepted accepted))
    exact .inr ⟨answered, accepted, run⟩

theorem only_act (write : KeyWrite) : Only [.shelf .key] write.act.run := by
  cases write with
  | upsert k => exact Only.upsert k (by decide)
  | update k => exact Only.update (α := AccountKey) k.id k (by decide)
  | delete id => exact Only.delete (α := AccountKey) id (by decide)

theorem only_inTurn (writes : List KeyWrite) : Only [.shelf .key] (inTurn writes).run := by
  induction writes with
  | nil => exact .ok _
  | cons write rest ih => exact .seq (only_act write) fun _ => ih

theorem turn_inTurn (writes : List KeyWrite) (w : World) :
    Turn w.outages w.calls w.store.keys writes (Attempt.isSuccess ((inTurn writes).run.run w).1)
      ((inTurn writes).run.run w).2.calls ((inTurn writes).run.run w).2.store.keys := by
  induction writes generalizing w with
  | nil => exact .done _ _
  | cons write rest ih =>
    rw [inTurn]
    rcases act_cases write w with ⟨e, run, fails⟩ | ⟨answered, accepted, run⟩
    · rw [Attempt.run_bind_of_error run]
      exact .stopped rest fails
    · rw [Attempt.run_bind_of_ok run]
      exact .made answered accepted (ih (w.counted.shelve (w.store.keys.edit [write.edit])))

/-- Operations that are made whatever becomes of the others. -/
theorem made_forEach {β : Type} (work : β → Act Unit) (writes : β → List KeyWrite) (l : List β)
    (h : ∀ b ∈ l, work b = inTurn (writes b)) (w : World) :
    Made w.outages w.calls w.store.keys (l.map writes)
        (l.length - Attempt.successes ((Attempt.forEach work l).run w).1)
        ((Attempt.forEach work l).run w).2.calls ((Attempt.forEach work l).run w).2.store.keys ∧
      w.Within [.shelf .key] ((Attempt.forEach work l).run w).2 := by
  induction l generalizing w with
  | nil => exact ⟨.done _ _, .refl _ w⟩
  | cons b l ih =>
    have first := only_inTurn (writes b) w
    have turn := turn_inTurn (writes b) w
    rw [← h b List.mem_cons_self] at first turn
    change w.Within _ ((work b).run.run w).2 at first
    obtain ⟨others, rest⟩ := ih (fun c hc => h c (List.mem_cons_of_mem _ hc)) ((work b).run.run w).2
    rw [first.outages] at others
    have bound := Attempt.successes_le work l ((work b).run.run w).2
    rw [Attempt.forEach_cons]
    refine ⟨?_, first.trans rest⟩
    refine (congrArg (Made _ _ _ _ · _ _) ?_).mp (Made.next turn others)
    rw [Attempt.successes] at bound ⊢
    rw [Attempt.successes, List.countP_cons, List.length_cons]
    cases Attempt.isSuccess ((work b).run.run w).1 with
    | true => simp
    | false =>
      simp only [Bool.not_false, Bool.toNat_true, Bool.false_eq_true, if_false]
      omega

end KeyWrite

/-! ### A synchronisation -/

namespace KeySync

open KeyWrite (Made Turn inTurn)

variable {address : String} {keys : List Chain.AccountKey} {observedAt : Timestamp} {t t' : Table String AccountKey}
  {outages : Outages} {n m : Nat}

/-- The writes by which a key replaces the one that is stored in its place. -/
def replacement (stored : List AccountKey) (k : AccountKey) : List KeyWrite :=
  match idAt? stored k.index with
  | some previous => if previous = k.id then [.update k] else [.delete previous, .upsert k]
  | none => [.update k]

/-- The operations of a diff, each with its writes. -/
def operations (stored : List AccountKey) (d : Diff AccountKey) : List (List KeyWrite) :=
  d.create.map (fun k => [.upsert k]) ++ d.update.map (replacement stored) ++ d.delete.map fun k => [.delete k.id]

/-- Between `w` and `w'` the keys of an account were reconciled with those that are stored, and so many of the
operations broke off. -/
def Reconciled (account : Chain.Account) (observedAt : Timestamp) (broken : Nat) (w w' : World) : Prop :=
  let address := Address.prefixed account.address
  ∃ n m, w.calls ≤ n ∧ m ≤ w'.calls ∧
    Made w.outages n w.store.keys
      (operations (storedKeys address w.store.keys) (delta address account.keys w.store.keys observedAt)) broken
      m w'.store.keys

/-- From `w` to `w'` the stored keys could not be read, and none was written. -/
def Unread (w w' : World) : Prop := w.Failed (· = .findAll .key) w' ∧ w'.store.keys = w.store.keys

theorem inTurn_singleton (write : KeyWrite) : inTurn [write] = write.act := by
  show (write.act >>= fun _ => pure ()) = write.act
  exact bind_pure_unit

theorem inTurn_replacement (stored : List AccountKey) (k : AccountKey) :
    replace stored k = inTurn (replacement stored k) := by
  unfold replace replacement
  cases idAt? stored k.index with
  | none => exact (inTurn_singleton (.update k)).symm
  | some previous =>
    dsimp only
    split
    · exact (inTurn_singleton (.update k)).symm
    · show _ = (KeyWrite.act (.delete previous) >>= fun _ => inTurn [.upsert k])
      rw [inTurn_singleton]
      rfl

/-- A diff whose operations are such writes is applied by making them. -/
theorem made_apply {stored : List AccountKey} (d : Diff AccountKey) (w : World) :
    let run := (Diff.apply Act.upsert (replace stored) (fun k => Act.delete AccountKey k.id) d).run w
    Made w.outages w.calls w.store.keys (operations stored d) run.1.failed run.2.calls run.2.store.keys := by
  intro run
  obtain ⟨created, first⟩ := KeyWrite.made_forEach Act.upsert (fun k => [.upsert k]) d.create
    (fun k _ => (inTurn_singleton (.upsert k)).symm) w
  let v := ((Attempt.forEach Act.upsert d.create).run w).2
  obtain ⟨updated, second⟩ := KeyWrite.made_forEach (replace stored) (replacement stored) d.update
    (fun k _ => inTurn_replacement stored k) v
  let u := ((Attempt.forEach (replace stored) d.update).run v).2
  obtain ⟨deleted, -⟩ := KeyWrite.made_forEach (fun k : AccountKey => Act.delete AccountKey k.id)
    (fun k => [.delete k.id]) d.delete (fun k _ => (inTurn_singleton (.delete k.id)).symm) u
  rw [second.outages, first.outages] at deleted
  rw [first.outages] at updated
  have all := (created.append updated).append deleted
  refine (congrArg (Made _ _ _ _ · _ _) ?_).mp all
  have creates := Attempt.successes_le Act.upsert d.create w
  have updates := Attempt.successes_le (replace stored) d.update v
  have deletes := Attempt.successes_le (fun k => Act.delete AccountKey k.id) d.delete u
  show _ = d.size - (Attempt.successes ((Attempt.forEach Act.upsert d.create).run w).1 +
    Attempt.successes ((Attempt.forEach (replace stored) d.update).run v).1 +
    Attempt.successes ((Attempt.forEach (fun k => Act.delete AccountKey k.id) d.delete).run u).1)
  unfold Diff.size
  omega

/-- A synchronisation ends with an error if the keys cannot be read, and else it reports how many of its operations
broke off. -/
theorem sync_cases (account : Chain.Account) (observedAt : Timestamp) (w : World) :
    (∃ e w', (sync (Address.prefixed account.address) account observedAt).run.run w = (.error e, w') ∧ Unread w w') ∨
      ∃ report w', (sync (Address.prefixed account.address) account observedAt).run.run w = (.ok report, w') ∧
        Reconciled account observedAt report.failed w w' := by
  unfold sync
  rcases keysOf_cases (Address.prefixed account.address) w with ⟨e, outage, run⟩ | run
  · exact .inl ⟨e, _, Attempt.run_bind_of_error run, .of_outage outage rfl, rfl⟩
  · refine .inr ⟨_, _, Attempt.run_bind_of_ok run, ?_⟩
    exact ⟨_, _, Nat.le_succ w.calls, Nat.le_refl _, made_apply _ w.counted⟩

/-! ### Which ids are written -/

section
variable {operation : List KeyWrite} {write : KeyWrite}

/-- A synchronisation writes under the ids of the keys that are reported, and of the stored ones of the account. -/
theorem written_of_operation
    (ho : operation ∈ operations (storedKeys address t) (delta address keys t observedAt)) (hw : write ∈ operation) :
    (∃ k ∈ keys, write.edit.1 = keyId address k.publicKey) ∨ ∃ s ∈ storedKeys address t, write.edit.1 = s.id := by
  simp only [operations, List.mem_append, List.mem_map] at ho
  rcases ho with (⟨a, created, rfl⟩ | ⟨u, updated, rfl⟩) | ⟨d, deleted, rfl⟩
  · obtain rfl := List.mem_singleton.mp hw
    obtain ⟨k, hk, rfl⟩ := reported_of_create created
    exact .inl ⟨k, hk, rfl⟩
  · obtain ⟨k, hk, s, -, -, rfl⟩ := merged_of_update updated
    have own : (merged address k observedAt s).id = keyId address k.publicKey := rfl
    unfold replacement at hw
    split at hw
    · next previous place =>
      split at hw
      · obtain rfl := List.mem_singleton.mp hw
        exact .inl ⟨k, hk, own⟩
      · rcases List.mem_pair.mp hw with rfl | rfl
        · obtain ⟨s', hs', -, same⟩ := stored_of_idAt? place
          exact .inr ⟨s', hs', same.symm⟩
        · exact .inl ⟨k, hk, own⟩
    · obtain rfl := List.mem_singleton.mp hw
      exact .inl ⟨k, hk, own⟩
  · obtain rfl := List.mem_singleton.mp hw
    exact .inr ⟨d, stored_of_delete deleted, rfl⟩

end

/-! ### New keys -/

/-- A reported key is created, or it is merged with the one that is stored in its place, which is an update unless
nothing changes. -/
theorem reported_cases (t : Table String AccountKey) (observedAt : Timestamp) (hA : Address.prefixed address = address)
    (indexes : (keys.map (·.index)).Nodup) {k : Chain.AccountKey} (hk : k ∈ keys) :
    .ofChain address k observedAt ∈ (delta address keys t observedAt).create ∨
      ∃ s ∈ storedKeys address t, merged address k observedAt s = s ∨
        merged address k observedAt s ∈ (delta address keys t observedAt).update := by
  have nodup := nodup_reported keys observedAt hA indexes
  have reported : AccountKey.ofChain address k observedAt ∈ reportedKeys address keys observedAt :=
    List.mem_map_of_mem hk
  cases found : (Table.ofList ((storedKeys address t).map fun k => (k.slot, k))).get?
      (AccountKey.ofChain address k observedAt).slot with
  | none =>
    refine .inl (?_ : _ ∈ (Diff.collect _ _ _ _).create)
    rw [Diff.collect_create nodup, List.mem_filter]
    exact ⟨reported, by rw [Table.contains, found]; rfl⟩
  | some s =>
    refine .inr ⟨s, (stored_of_slot found).1, ?_⟩
    by_cases kept : merged address k observedAt s = s
    · exact .inl kept
    · refine .inr (?_ : _ ∈ (Diff.collect _ _ _ _).update)
      rw [Diff.collect_update nodup, List.mem_filterMap]
      refine ⟨_, reported, ?_⟩
      rw [Diff.update?, found]
      exact if_neg fun same => kept (beq_iff_eq.mp same)

/-- A replaced key is written last. -/
theorem mem_replacement (stored : List AccountKey) (k : AccountKey) :
    ∃ write ∈ replacement stored k, write.edit = (k.id, some k) := by
  unfold replacement
  split
  · split
    · exact ⟨.update k, List.mem_singleton_self _, rfl⟩
    · exact ⟨.upsert k, List.mem_cons_of_mem _ (List.mem_singleton_self _), rfl⟩
  · exact ⟨.update k, List.mem_singleton_self _, rfl⟩

section
variable (hA : Address.prefixed address = address)
include hA

/-- What a synchronisation writes under the id of a reported key shows that key, unless a stored key has this id. -/
theorem shows_of_operation (publicKeys : (keys.map (·.publicKey)).Nodup) {k : Chain.AccountKey} (hk : k ∈ keys)
    (new : ∀ s ∈ storedKeys address t, s.id ≠ keyId address k.publicKey) {operation : List KeyWrite}
    (ho : operation ∈ operations (storedKeys address t) (delta address keys t observedAt)) {write : KeyWrite}
    (hw : write ∈ operation) (place : write.edit.1 = keyId address k.publicKey) :
    ∃ r, write.edit.2 = some r ∧ Shows address k r := by
  have same {k' : Chain.AccountKey} (hk' : k' ∈ keys) (ids : keyId address k'.publicKey = keyId address k.publicKey) :
      k' = k := List.inj_on_of_nodup_map publicKeys hk' hk (keyId_inj ids)
  simp only [operations, List.mem_append, List.mem_map] at ho
  rcases ho with (⟨a, created, rfl⟩ | ⟨u, updated, rfl⟩) | ⟨d, deleted, rfl⟩
  · obtain rfl := List.mem_singleton.mp hw
    obtain ⟨k', hk', rfl⟩ := reported_of_create created
    obtain rfl := same hk' place
    exact ⟨_, rfl, shows_ofChain hA k'⟩
  · obtain ⟨k', hk', s, -, -, rfl⟩ := merged_of_update updated
    have written (ids : keyId address k'.publicKey = keyId address k.publicKey) :
        Shows address k (merged address k' observedAt s) := same hk' ids ▸ shows_merged hA k' s
    unfold replacement at hw
    split at hw
    · next previous found =>
      split at hw
      · obtain rfl := List.mem_singleton.mp hw
        exact ⟨_, rfl, written place⟩
      · rcases List.mem_pair.mp hw with rfl | rfl
        · obtain ⟨s', hs', -, ids⟩ := stored_of_idAt? found
          exact absurd (ids.trans place) (new s' hs')
        · exact ⟨_, rfl, written place⟩
    · obtain rfl := List.mem_singleton.mp hw
      exact ⟨_, rfl, written place⟩
  · obtain rfl := List.mem_singleton.mp hw
    exact absurd place (new d (stored_of_delete deleted))

/-- Where no operation breaks off every reported key is shown whose id was not stored before. -/
theorem shows_of_made (indexes : (keys.map (·.index)).Nodup) (publicKeys : (keys.map (·.publicKey)).Nodup)
    (made : Made outages n t (operations (storedKeys address t) (delta address keys t observedAt)) 0 m t')
    {k : Chain.AccountKey} (hk : k ∈ keys) (new : ∀ id s, t.get? id = some s → s.id ≠ keyId address k.publicKey) :
    ∃ r, t'.get? (keyId address k.publicKey) = some r ∧ Shows address k r := by
  have new : ∀ s ∈ storedKeys address t, s.id ≠ keyId address k.publicKey := fun s hs => by
    obtain ⟨⟨id, found⟩, -⟩ := mem_storedKeys.mp hs
    exact new id s found
  have always (u : Option AccountKey) (hu : (keyId address k.publicKey, u) ∈ (operations (storedKeys address t)
      (delta address keys t observedAt)).flatten.map KeyWrite.edit) : ∃ r, u = some r ∧ Shows address k r := by
    obtain ⟨write, hw, same⟩ := List.mem_map.mp hu
    obtain ⟨operation, ho, hw⟩ := List.mem_flatten.mp hw
    have shown := shows_of_operation hA publicKeys hk new ho hw (congrArg Prod.fst same)
    rwa [congrArg Prod.snd same] at shown
  obtain ⟨operation, ho, write, hw, v, same⟩ : ∃ operation ∈ operations (storedKeys address t)
      (delta address keys t observedAt), ∃ write ∈ operation, ∃ v, write.edit = (keyId address k.publicKey, v) := by
    rcases reported_cases t observedAt hA indexes hk with created | ⟨s, hs, kept | updated⟩
    · refine ⟨_, List.mem_append_left _ (List.mem_append_left _ (List.mem_map_of_mem created)), ?_⟩
      exact ⟨_, List.mem_singleton_self _, _, rfl⟩
    · exact absurd (congrArg AccountKey.id kept).symm (new s hs)
    · obtain ⟨write, hw, same⟩ := mem_replacement (storedKeys address t) (merged address k observedAt s)
      exact ⟨_, List.mem_append_left _ (List.mem_append_right _ (List.mem_map_of_mem updated)), write, hw, _, same⟩
  rw [made.edit_eq]
  exact Table.forall_get?_edit (fun u => ∃ r, u = some r ∧ Shows address k r)
    (List.mem_map.mpr ⟨write, List.mem_flatten.mpr ⟨operation, ho, hw⟩, same⟩) always

end

/-! ### Where every key stands under its own id -/

/-- The updates that are ahead are about different places, and what one of them writes over is there. -/
structure Ready (stored ahead : List AccountKey) (t : Table String AccountKey) : Prop where
  indexes : ahead.Pairwise fun u v => u.index ≠ v.index
  placed : ∀ u ∈ ahead, ∃ previous, idAt? stored u.index = some previous ∧ (previous = u.id → t.contains u.id = true)

section
variable {stored ahead : List AccountKey} {u : AccountKey} {whole : Bool}

/-- A write that is not refused breaks off an operation of its own only if its call fails. -/
theorem whole_of_singleton {write : KeyWrite} (accepted : write.refused t = false)
    (turn : Turn outages n t [write] whole m t') : whole = true ∨ outages.Fails (Call.On .key) n m := by
  rcases turn with _ | ⟨-, fails | refused⟩ | ⟨-, -, ⟨⟩⟩
  · exact .inr (.here fails write.on_key)
  · cases accepted.symm.trans refused
  · exact .inl rfl

theorem Ready.upsert {k : AccountKey} (ready : Ready stored ahead t) (turn : Turn outages n t [.upsert k] whole m t') :
    Ready stored ahead t' := by
  refine ⟨ready.indexes, fun v hv => ?_⟩
  obtain ⟨previous, place, bound⟩ := ready.placed v hv
  refine ⟨previous, place, fun same => ?_⟩
  rcases turn with _ | _ | ⟨-, -, ⟨⟩⟩
  · exact bound same
  · exact Table.contains_edit (bound same) (by simp [KeyWrite.edit])

/-- A replacement breaks off only if a call fails, and takes nothing away that is written over later. -/
theorem Ready.replaced (own : ∀ s ∈ stored, ∀ s' ∈ stored, s.id = s'.id → s = s') (ready : Ready stored (u :: ahead) t)
    (turn : Turn outages n t (replacement stored u) whole m t') :
    Ready stored ahead t' ∧ (whole = true ∨ outages.Fails (Call.On .key) n m) := by
  obtain ⟨others, indexes⟩ := List.pairwise_cons.mp ready.indexes
  obtain ⟨previous, place, bound⟩ := ready.placed u List.mem_cons_self
  unfold replacement at turn
  rw [place] at turn
  dsimp only at turn
  by_cases same : previous = u.id
  · rw [if_pos same] at turn
    refine ⟨⟨indexes, fun v hv => ?_⟩, whole_of_singleton (by simp [KeyWrite.refused, bound same]) turn⟩
    obtain ⟨previous', place', bound'⟩ := ready.placed v (List.mem_cons_of_mem u hv)
    refine ⟨previous', place', fun same' => ?_⟩
    rcases turn with _ | _ | ⟨-, -, ⟨⟩⟩
    · exact bound' same'
    · exact Table.contains_edit (bound' same') (by simp [KeyWrite.edit])
  · rw [if_neg same] at turn
    refine ⟨⟨indexes, fun v hv => ?_⟩, ?_⟩
    · obtain ⟨previous', place', bound'⟩ := ready.placed v (List.mem_cons_of_mem u hv)
      refine ⟨previous', place', fun same' => ?_⟩
      -- Otherwise one stored key would be in both places.
      have kept : previous ≠ v.id := by
        rintro rfl
        obtain ⟨s, hs, at_u, ids⟩ := stored_of_idAt? place
        obtain ⟨s', hs', at_v, ids'⟩ := stored_of_idAt? (same' ▸ place')
        obtain rfl := own s hs s' hs' (ids.trans ids'.symm)
        exact absurd (at_u.symm.trans at_v) (others v hv)
      have deleted : (t.edit [KeyWrite.edit (.delete previous)]).contains v.id = true :=
        Table.contains_edit (bound' same') (by simpa [KeyWrite.edit] using fun h => kept h.symm)
      rcases turn with _ | _ | ⟨-, -, _ | _ | ⟨-, -, ⟨⟩⟩⟩
      · exact bound' same'
      · exact deleted
      · exact Table.contains_edit deleted (by simp [KeyWrite.edit])
    · rcases turn with _ | ⟨-, fails | refused⟩ | ⟨-, -, turn⟩
      · exact .inr (.here fails rfl)
      · cases refused
      · exact (whole_of_singleton rfl turn).imp_right fun fails => fails.within (Nat.le_succ n) (Nat.le_refl m)

end

/-- What a synchronisation updates is ready where every record stands under its own id. -/
theorem ready_delta (own : t.All fun id k => k.id = id) :
    Ready (storedKeys address t) (delta address keys t observedAt).update t := by
  refine ⟨update_indexes, fun u hu => ?_⟩
  obtain ⟨s, hs, place⟩ := stored_of_update hu
  obtain ⟨previous, found⟩ := exists_idAt? hs
  rw [place] at found
  refine ⟨previous, found, ?_⟩
  rintro rfl
  obtain ⟨s', hs', -, ids⟩ := stored_of_idAt? found
  obtain ⟨⟨id, stored⟩, -⟩ := mem_storedKeys.mp hs'
  rw [Table.contains, ← ids, own id s' stored, stored]
  rfl

theorem eq_of_own (own : t.All fun id k => k.id = id) {s s' : AccountKey} (hs : s ∈ storedKeys address t)
    (hs' : s' ∈ storedKeys address t) (ids : s.id = s'.id) : s = s' := by
  obtain ⟨⟨id, found⟩, -⟩ := mem_storedKeys.mp hs
  obtain ⟨⟨id', found'⟩, -⟩ := mem_storedKeys.mp hs'
  rw [← own id s found, ids, own id' s' found'] at found
  exact Option.some.inj (found.symm.trans found')

/-- Where every key stands under its own id an operation breaks off only if a call to the index of keys fails. -/
theorem fails_of_made (own : t.All fun id k => k.id = id) {broken : Nat}
    (made : Made outages n t (operations (storedKeys address t) (delta address keys t observedAt)) broken m t') :
    broken = 0 ∨ outages.Fails (Call.On .key) n m := by
  obtain ⟨_, c, k, v, front, deletes, rfl⟩ := made.split
  obtain ⟨a, b, l, u, creates, updates, rfl⟩ := front.split
  obtain ⟨ready, created⟩ := creates.fails_or
    (fun _ => Ready (storedKeys address t) (delta address keys t observedAt).update)
    (fun _ _ _ _ _ _ _ _ ready turn => ⟨ready.upsert turn, whole_of_singleton rfl turn⟩) (ready_delta own)
  obtain ⟨-, updated⟩ := updates.fails_or (Ready (storedKeys address t))
    (fun _ _ _ _ _ _ _ _ ready turn => ready.replaced (fun _ hs _ => eq_of_own own hs) turn) ready
  obtain ⟨-, deleted⟩ := deletes.fails_or (fun _ _ => True)
    (fun _ _ _ _ _ _ _ _ _ turn => ⟨trivial, whole_of_singleton rfl turn⟩) trivial
  rcases created with rfl | fails
  · rcases updated with rfl | fails
    · exact deleted.imp (fun none => by rw [none]) fun fails => fails.within front.le (Nat.le_refl m)
    · exact .inr (fails.within creates.le deletes.le)
  · exact .inr (fails.within (Nat.le_refl n) (Nat.le_trans updates.le deletes.le))

end KeySync

end ChainIndex
