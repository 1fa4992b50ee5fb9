import ChainIndex.Proofs.Edits

/-!
# Operations in any order

A diff is a list of operations, and each of them is made exactly once, whatever becomes of the others. Where
no id has two operations, none of them meets what another one did: each fails or is made as it would be alone
on the index as it was. So they leave the same index and give the same report in any order.
-/

set_option autoImplicit false

namespace ChainIndex

open Store (Shelved)
open Indexed (Entity)

/-- From `w` on it depends on the call alone whether it fails, and how. -/
def World.Faults (fault : Call → Option Error) (w : World) : Prop :=
  ∀ n, w.calls ≤ n → ∀ call, w.outages.call n call = fault call

/-- A kind of record of which an update carries the whole record. -/
class Indexed.Whole (α : Type) [Entity α α] : Prop where
  patch_eq (a old : α) : Entity.patch a old = a

namespace Indexed

instance : Whole Block := ⟨fun _ _ => rfl⟩

instance : Whole Event := ⟨fun _ _ => rfl⟩

instance : Whole Account := ⟨fun _ _ => rfl⟩

instance : Whole AccountKey := ⟨fun _ _ => rfl⟩

instance : Whole Contract := ⟨fun _ _ => rfl⟩

instance : Whole StorageItem := ⟨fun _ _ => rfl⟩

end Indexed

namespace Diff

variable {α σ : Type}

inductive Action where
  | create
  | update
  | delete
  deriving DecidableEq

/-- One operation of a diff. -/
structure Operation (α : Type) where
  action : Action
  record : α

/-- The operations of a diff in the order in which they are made. -/
def operations (d : Diff α) : List (Operation α) :=
  d.create.map (⟨.create, ·⟩) ++ (d.update.map (⟨.update, ·⟩) ++ d.delete.map (⟨.delete, ·⟩))

/-- The report with more operations of one kind, of which some were made and some failed. -/
def Report.plus (action : Action) (made failed : Nat) (r : Report) : Report :=
  match action with
  | .create => { r with created := made + r.created, failed := failed + r.failed }
  | .update => { r with updated := made + r.updated, failed := failed + r.failed }
  | .delete => { r with deleted := made + r.deleted, failed := failed + r.failed }

/-- Makes operations one after the other, each once. -/
def perform (work : Operation α → Attempt σ Unit) : List (Operation α) → StateM σ Report
  | [] => return ⟨0, 0, 0, 0⟩
  | op :: rest => do
    let made := Attempt.isSuccess (← (work op).run)
    let others ← perform work rest
    return others.plus op.action made.toNat (!made).toNat

/-- What operations amount to if these fail. -/
def tally (fails : Operation α → Bool) (ops : List (Operation α)) : Report where
  created := ops.countP fun op => op.action = .create && !fails op
  updated := ops.countP fun op => op.action = .update && !fails op
  deleted := ops.countP fun op => op.action = .delete && !fails op
  failed := ops.countP fails

namespace Operation

/-- The work for an operation, given the work for each action. -/
def work (create update delete : α → Attempt σ Unit) (op : Operation α) : Attempt σ Unit :=
  match op.action with
  | .create => create op.record
  | .update => update op.record
  | .delete => delete op.record

variable [Shelved α α]

def id (op : Operation α) : String := Entity.id op.record

/-- The call that an operation makes. -/
def call (op : Operation α) : Call :=
  match op.action with
  | .create => .create (Shelved.shelf α) op.id
  | .update => .update (Shelved.shelf α) op.id
  | .delete => .delete (Shelved.shelf α) op.id

/-- An operation on the index of its kind. -/
def act : Operation α → Act Unit :=
  work Act.create (fun a => Act.update α (Entity.id a) a) fun a => Act.delete α (Entity.id a)

/-- What is there is not created, and what is not there is not updated. -/
def refused (t : Table String α) (op : Operation α) : Bool :=
  match op.action with
  | .create => t.contains op.id
  | .update => !t.contains op.id
  | .delete => false

def fails (fault : Call → Option Error) (t : Table String α) (op : Operation α) : Bool :=
  (fault op.call).isSome || op.refused t

/-- What stands under the id of an operation that was made. -/
def leaves (op : Operation α) : Option α :=
  match op.action with
  | .create | .update => some op.record
  | .delete => none

def write (op : Operation α) : String × Option α := (op.id, op.leaves)

end Operation

/-- From `w` to `w'` these operations were made, but for the ones that fail. -/
structure Performed [Shelved α α] (fails : Operation α → Bool) (ops : List (Operation α)) (w w' : World) : Prop where
  within : w.Within [.shelf (Shelved.shelf α)] w'
  calls : w'.calls = w.calls + ops.length
  made : ∀ op ∈ ops, fails op = false → (Shelved.table w'.store : Table String α).get? op.id = op.leaves
  /-- A failed operation changes nothing, and nothing else is changed. -/
  kept : ∀ id, (∀ op ∈ ops, op.id = id → fails op = true) →
    (Shelved.table w'.store : Table String α).get? id = (Shelved.table w.store : Table String α).get? id

/-! ### Each operation once -/

theorem Report.plus_plus (action : Action) (m f m' f' : Nat) (r : Report) :
    (r.plus action m f).plus action m' f' = r.plus action (m' + m) (f' + f) := by
  cases action <;> simp [plus, Nat.add_assoc]

theorem Report.plus_zero (action : Action) (r : Report) : r.plus action 0 0 = r := by
  cases action <;> simp [plus]

theorem perform_cons (work : Operation α → Attempt σ Unit) (op : Operation α) (rest : List (Operation α)) (s : σ) :
    (perform work (op :: rest)).run s =
      (((perform work rest).run ((work op).run.run s).2).1.plus op.action
          (Attempt.isSuccess ((work op).run.run s).1).toNat (!Attempt.isSuccess ((work op).run.run s).1).toNat,
        ((perform work rest).run ((work op).run.run s).2).2) := rfl

/-- Operations of one kind in front of others are made like a list of attempts. -/
theorem perform_map_append (work : Operation α → Attempt σ Unit) (action : Action) (l : List α)
    (rest : List (Operation α)) (s : σ) :
    (perform work (l.map (⟨action, ·⟩) ++ rest)).run s =
      let first := (Attempt.forEach (fun a => work ⟨action, a⟩) l).run s
      let others := (perform work rest).run first.2
      (others.1.plus action (Attempt.successes first.1) (l.length - Attempt.successes first.1), others.2) := by
  induction l generalizing s with
  | nil => exact Prod.ext (Report.plus_zero action _).symm rfl
  | cons a l ih =>
    have bound := Attempt.successes_le (fun a => work ⟨action, a⟩) l ((work ⟨action, a⟩).run.run s).2
    simp only [List.map_cons, List.cons_append, perform_cons, ih, Attempt.forEach_cons, Report.plus_plus,
      Attempt.successes, List.countP_cons, List.length_cons] at bound ⊢
    refine Prod.ext (congrArg₂ (Report.plus action · · _) ?_ ?_) rfl
    · cases Attempt.isSuccess ((work ⟨action, a⟩).run.run s).1 <;> simp [Nat.add_comm]
    · cases Attempt.isSuccess ((work ⟨action, a⟩).run.run s).1 with
      | false =>
        simp only [Bool.not_false, Bool.toNat_true, Bool.false_eq_true, if_false]
        omega
      | true => simp

/-- Applying a diff makes each of its operations once. -/
theorem apply_eq_perform (create update delete : α → Attempt σ Unit) (d : Diff α) (s : σ) :
    (apply create update delete d).run s = (perform (Operation.work create update delete) d.operations).run s := by
  let creates := (Attempt.forEach create d.create).run s
  let updates := (Attempt.forEach update d.update).run creates.2
  let deletes := (Attempt.forEach delete d.delete).run updates.2
  have one_by_one : (perform (Operation.work create update delete) d.operations).run s =
      (⟨Attempt.successes creates.1, Attempt.successes updates.1, Attempt.successes deletes.1,
        d.create.length - Attempt.successes creates.1 + (d.update.length - Attempt.successes updates.1 +
          (d.delete.length - Attempt.successes deletes.1))⟩, deletes.2) := by
    have last := perform_map_append (Operation.work create update delete) .delete d.delete []
    rw [List.append_nil] at last
    simp only [operations, perform_map_append, last]
    rfl
  have created : Attempt.successes creates.1 ≤ _ := Attempt.successes_le create d.create s
  have updated : Attempt.successes updates.1 ≤ _ := Attempt.successes_le update d.update creates.2
  have deleted : Attempt.successes deletes.1 ≤ _ := Attempt.successes_le delete d.delete updates.2
  rw [one_by_one]
  refine Prod.ext (congrArg (Report.mk _ _ _) ?_) rfl
  show d.size - (Attempt.successes creates.1 + Attempt.successes updates.1 + Attempt.successes deletes.1) = _
  unfold size
  omega

theorem length_operations (d : Diff α) : d.operations.length = d.size := by
  simp [operations, Diff.size, Nat.add_assoc]

/-! ### What operations amount to -/

theorem tally_cons (fails : Operation α → Bool) (op : Operation α) (ops : List (Operation α)) :
    tally fails (op :: ops) = (tally fails ops).plus op.action (!fails op).toNat (fails op).toNat := by
  obtain ⟨action, record⟩ := op
  cases action <;> cases h : fails ⟨_, record⟩ <;> simp [tally, Report.plus, h, Nat.add_comm]

theorem tally_perm (fails : Operation α → Bool) {l r : List (Operation α)} (perm : l.Perm r) :
    tally fails l = tally fails r := by
  simp only [tally, perm.countP_eq]

theorem tally_congr {fails fails' : Operation α → Bool} {ops : List (Operation α)}
    (same : ∀ op ∈ ops, fails op = fails' op) : tally fails ops = tally fails' ops := by
  induction ops with
  | nil => rfl
  | cons op ops ih =>
    rw [tally_cons, tally_cons, same op List.mem_cons_self, ih fun other h => same other (List.mem_cons_of_mem _ h)]

/-- Every operation is accounted for. -/
theorem tally_total (fails : Operation α → Bool) (ops : List (Operation α)) :
    (tally fails ops).created + (tally fails ops).updated + (tally fails ops).deleted + (tally fails ops).failed =
      ops.length := by
  induction ops with
  | nil => rfl
  | cons op ops ih =>
    rw [tally_cons, List.length_cons, ← ih]
    cases op.action <;> cases fails op <;>
      simp only [Report.plus, Bool.not_false, Bool.not_true, Bool.toNat_false, Bool.toNat_true] <;> omega

/-! ### Operations on an index -/

section
variable [Shelved α α] {fault : Call → Option Error} {w : World}

/-- Whether an operation fails depends on its own id in the index. -/
theorem Operation.fails_congr {op : Operation α} {t t' : Table String α} (same : t'.get? op.id = t.get? op.id) :
    op.fails fault t' = op.fails fault t := by
  simp only [fails, refused, Table.contains, same]

/-- Edits with distinct ids have the effect that each of them has alone. -/
theorem performed_of_edited {fails : Operation α → Bool} {ops : List (Operation α)} {w' : World}
    (distinct : (ops.map Operation.id).Nodup) (calls : w'.calls = w.calls + ops.length)
    (edited : w.Edited ((ops.filter fun op => !fails op).map Operation.write) w') : Performed fails ops w w' where
  within := edited.within
  calls := calls
  made op h made := by
    have keys : (((ops.filter fun op => !fails op).map Operation.write).map (·.1)).Nodup := by
      rw [List.map_map]
      exact distinct.sublist (List.filter_sublist.map _)
    rw [edited.table]
    exact Table.get?_edit_of_nodup keys (List.mem_map_of_mem (List.mem_filter.mpr ⟨h, by simpa using made⟩))
  kept id failed := by
    rw [edited.table]
    refine Table.get?_edit_of_not_mem fun v h => ?_
    obtain ⟨op, listed, place⟩ := List.mem_map.mp h
    obtain ⟨ho, made⟩ := List.mem_filter.mp listed
    rw [failed op ho (congrArg Prod.fst place)] at made
    cases made

theorem Performed.perm {fails : Operation α → Bool} {ops ops' : List (Operation α)} {w' : World} (perm : ops.Perm ops')
    (h : Performed fails ops w w') : Performed fails ops' w w' where
  within := h.within
  calls := by rw [h.calls, perm.length_eq]
  made op ho := h.made op (perm.mem_iff.mpr ho)
  kept id failed := h.kept id fun op ho => failed op (perm.mem_iff.mp ho)

/-- The index follows from the operations and from which of them fail. -/
theorem Performed.table_unique {fails : Operation α → Bool} {ops : List (Operation α)} {w₁ w₂ : World}
    (h₁ : Performed fails ops w w₁) (h₂ : Performed fails ops w w₂) :
    (Shelved.table w₁.store : Table String α) = Shelved.table w₂.store := by
  refine Table.ext_get? fun id => ?_
  by_cases made : ∃ op ∈ ops, op.id = id ∧ fails op = false
  · obtain ⟨op, ho, rfl, made⟩ := made
    rw [h₁.made op ho made, h₂.made op ho made]
  · have failed : ∀ op ∈ ops, op.id = id → fails op = true := fun op ho same =>
      Bool.not_eq_false _ ▸ fun h => made ⟨op, ho, same, h⟩
    rw [h₁.kept id failed, h₂.kept id failed]

variable [Indexed.Whole α]

/-- An operation is a write that is refused or leaves what it is to leave. -/
theorem Operation.act_write (op : Operation α) : ∃ change : Table String α → Except Error (Table String α),
    op.act = Act.write op.call change ∧
      ∀ t, if op.refused t then ∃ e, change t = .error e else change t = .ok (t.edit [op.write]) := by
  obtain ⟨action, a⟩ := op
  cases action with
  | create =>
    refine ⟨Index.create a, rfl, fun t => ?_⟩
    show if t.contains (Entity.id a) then _ else _
    split
    · next taken => exact ⟨_, if_pos taken⟩
    · next free => exact if_neg free
  | update =>
    refine ⟨Index.update (Entity.id a) a, rfl, fun t => ?_⟩
    show if !t.contains (Entity.id a) then _ else _
    rw [Table.contains, Index.update]
    cases t.get? (Entity.id a) with
    | none => exact ⟨_, rfl⟩
    | some old =>
      show Except.ok (t.insert (Entity.id a) (Entity.patch a old)) = _
      rw [Indexed.Whole.patch_eq]
      rfl
  | delete => exact ⟨_, rfl, fun t => rfl⟩

variable [LawfulShelf α]

/-- An operation is made or fails. -/
theorem Operation.act_run (op : Operation α) (answer : w.outages.call w.calls op.call = fault op.call) :
    ∃ result w', op.act.run.run w = (result, w') ∧
      Attempt.isSuccess result = !op.fails fault (Shelved.table w.store) ∧ w'.calls = w.calls + 1 ∧
      w.Edited (if op.fails fault (Shelved.table w.store) then [] else [op.write]) w' := by
  obtain ⟨change, act, changes⟩ := act_write op
  have changes := changes (Shelved.table w.store)
  rw [act]
  unfold fails
  cases h : fault op.call with
  | some e => exact ⟨_, _, Act.write_of_outage (answer.trans h), rfl, rfl, .counted w⟩
  | none =>
    rw [h] at answer
    cases refusal : op.refused (Shelved.table w.store) with
    | true =>
      rw [refusal, if_pos rfl] at changes
      obtain ⟨e, changes⟩ := changes
      exact ⟨_, _, Act.write_of_refusal answer changes, rfl, rfl, .counted w⟩
    | false =>
      rw [refusal, if_neg Bool.false_ne_true] at changes
      exact ⟨_, _, Act.write_of_ok answer changes, rfl, rfl, .shelve op.write w⟩

/-- The operations that do not fail on the index as it was are its edits. -/
theorem perform_run {ops : List (Operation α)} (faults : w.Faults fault) (distinct : (ops.map Operation.id).Nodup) :
    let fails := Operation.fails fault (Shelved.table w.store)
    ∃ w', (perform Operation.act ops).run w = (tally fails ops, w') ∧ w'.calls = w.calls + ops.length ∧
      w.Edited ((ops.filter fun op => !fails op).map Operation.write) w' := by
  induction ops generalizing w with
  | nil => exact ⟨w, rfl, rfl, .refl _ w, rfl⟩
  | cons op ops ih =>
    intro fails
    obtain ⟨fresh, distinct⟩ := List.nodup_cons.mp (List.map_cons ▸ distinct)
    obtain ⟨result, v, first, success, counted, edited⟩ := op.act_run (faults _ (Nat.le_refl _) _)
    obtain ⟨w', rest, calls, edits⟩ := ih (w := v)
      (fun n hn call => by rw [edited.within.outages]; exact faults n (Nat.le_trans edited.within.calls hn) call) distinct
    -- The other operations find under their ids what they would have found before the first one.
    have same : ∀ other ∈ ops, other.fails fault (Shelved.table v.store) = fails other := by
      intro other h
      refine Operation.fails_congr ?_
      rw [edited.table]
      split
      · rfl
      · exact Table.get?_edit_of_ne _ fun same => fresh (List.mem_map.mpr ⟨other, h, same⟩)
    refine ⟨w', ?_, ?_, ?_⟩
    · rw [perform_cons, first, rest, success, tally_congr same, tally_cons, Bool.not_not]
    · rw [calls, counted, List.length_cons, Nat.add_assoc, Nat.add_comm 1]
    · rw [List.filter_congr fun other h => congrArg not (same other h)] at edits
      refine (congrArg (World.Edited · w w') ?_).mp (edited.trans edits)
      rw [List.filter_cons]
      cases h : op.fails fault (Shelved.table w.store) <;> simp [fails, h]

/-- A diff without two operations on one id, where it depends on the call which calls fail: every operation is
made once, the ones that do not fail have their effect and nothing else is changed, the report counts them
all, and in any other order they give the same report and the same index. -/
theorem applyDiff_performed (d : Diff α) (faults : w.Faults fault) (distinct : (d.operations.map Operation.id).Nodup) :
    let fails := Operation.fails fault (Shelved.table w.store)
    let report := tally fails d.operations
    (Act.applyDiff d).run w = (perform Operation.act d.operations).run w ∧
      ((Act.applyDiff d).run w).1 = report ∧ Performed fails d.operations w ((Act.applyDiff d).run w).2 ∧
      report.created + report.updated + report.deleted + report.failed = d.size ∧
      ∀ ops, ops.Perm d.operations → ((perform Operation.act ops).run w).1 = report ∧
        Performed fails d.operations w ((perform Operation.act ops).run w).2 ∧
        (Shelved.table ((perform Operation.act ops).run w).2.store : Table String α) =
          Shelved.table ((Act.applyDiff d).run w).2.store := by
  intro fails report
  have any : ∀ ops, ops.Perm d.operations → ((perform Operation.act ops).run w).1 = report ∧
      Performed fails d.operations w ((perform Operation.act ops).run w).2 := by
    intro ops perm
    have distinct := (perm.map Operation.id).nodup_iff.mpr distinct
    obtain ⟨w', run, calls, edited⟩ := perform_run faults distinct
    rw [run]
    exact ⟨tally_perm fails perm, (performed_of_edited distinct calls edited).perm perm⟩
  have once : (Act.applyDiff d).run w = (perform Operation.act d.operations).run w := apply_eq_perform _ _ _ d w
  obtain ⟨counted, performed⟩ := any _ (.refl _)
  rw [once]
  refine ⟨rfl, counted, performed, (tally_total fails _).trans (length_operations d), fun ops perm => ?_⟩
  obtain ⟨counted', performed'⟩ := any ops perm
  exact ⟨counted', performed', performed'.table_unique performed⟩

end

/-! ### Operations that fail for different reasons -/

def heldKey (id : String) : Indexed.AccountKey := ⟨id, 0, "0x01", id, none, none, 1000, 0, false, none, .epoch⟩

/-- A key that is there and a new one are created, one that is there and an absent one are updated, and one is
deleted. -/
def keyChanges : Diff Indexed.AccountKey where
  create := [heldKey "a", heldKey "d"]
  update := [{ heldKey "b" with revoked := true }, heldKey "e"]
  delete := [heldKey "c"]

/-- The key that is to be deleted cannot be. -/
def locked : Call → Option Error
  | .delete .key "c" => some (.storage "key c is locked")
  | _ => none

def threeKeys : World :=
  { World.start .empty { Store.empty with keys := .ofList (["a", "b", "c"].map fun id => (id, heldKey id)) } .epoch with
    outages := ⟨fun _ => locked, fun _ => none⟩ }

theorem applyDiff_performed_keys :
    threeKeys.Faults locked ∧ (keyChanges.operations.map Operation.id).Nodup ∧
      ((Act.applyDiff keyChanges).run threeKeys).1 = ⟨1, 1, 0, 3⟩ ∧
      ((perform Operation.act keyChanges.operations.reverse).run threeKeys).1 = ⟨1, 1, 0, 3⟩ ∧
      ((Act.applyDiff keyChanges).run threeKeys).2.store.keys.get? "c" = some (heldKey "c") := by
  have faults : threeKeys.Faults locked := fun _ _ _ => rfl
  have distinct : (keyChanges.operations.map Operation.id).Nodup := by decide +kernel
  have report : tally (Operation.fails locked threeKeys.store.keys) keyChanges.operations = ⟨1, 1, 0, 3⟩ := by
    decide +kernel
  obtain ⟨-, counted, performed, -, any⟩ := applyDiff_performed keyChanges faults distinct
  refine ⟨faults, distinct, counted.trans report, (any _ (List.reverse_perm _)).1.trans report, ?_⟩
  have kept : ∀ op ∈ keyChanges.operations, op.id = "c" → op.fails locked threeKeys.store.keys = true := by
    decide +kernel
  exact (performed.kept "c" kept).trans (by decide +kernel)

end Diff

end ChainIndex
