import ChainIndex.Proofs.Climb
import ChainIndex.Proofs.Edits
import Mathlib.Algebra.GroupWithZero.Nat

/-!
# What a scan of storage writes

A scan writes a list of records over the index of storage items, one after the other: those of all items of all
accounts on record, but for the accounts that cannot be read and for the items that cannot be written
(`StorageScan.records`). Of several records with one id the last one counts, so the same scan does not change
anything when it is made again.
-/

set_option autoImplicit false

namespace ChainIndex

open Store (Shelved)
open Indexed (Entity StorageItem)

/-! ### Records over a table -/

/-- The edit that binds the id of a record to it. -/
def Indexed.binding {α π : Type} [Entity α π] (a : α) : String × Option α := (Entity.id a, some a)

open Indexed (binding)

/-- The second table is the first one with these records written over it in their order. -/
def Table.Overlaid {α π : Type} [Entity α π] (records : List α) (t t' : Table String α) : Prop :=
  ∀ id, t'.get? id = (records.filter fun a => Entity.id a == id).getLast?.or (t.get? id)

namespace Table.Overlaid
variable {α π : Type} [Entity α π] {records : List α} {t t' t'' : Table String α}

theorem of_edit (t : Table String α) (records : List α) : t.Overlaid records (t.edit (records.map binding)) := by
  induction records generalizing t with
  | nil => exact fun _ => rfl
  | cons a records ih =>
    intro id
    rw [List.map_cons, edit_cons, ih, List.filter_cons]
    by_cases same : Entity.id a = id
    · rw [if_pos (beq_iff_eq.mpr same), ← same, binding, get?_edit_self, List.getLast?_cons]
      cases (records.filter fun b => Entity.id b == Entity.id a).getLast? <;> rfl
    · rw [if_neg (by simpa using same), get?_edit_of_ne t (Ne.symm same)]

theorem of_edited {α π : Type} [Shelved α π] {records : List α} {w w' : World}
    (h : w.Edited (records.map binding) w') :
    (Shelved.table w.store : Table String α).Overlaid records (Shelved.table w'.store : Table String α) := by
  rw [h.table]
  exact of_edit _ records

theorem contains (h : t.Overlaid records t') {id : String} (stored : t.contains id = true) :
    t'.contains id = true := by
  unfold Table.contains at stored ⊢
  rw [h id]
  cases (records.filter fun a => Entity.id a == id).getLast? with
  | none => exact stored
  | some a => rfl

/-- What is written a second time is there already. -/
theorem again (h : t.Overlaid records t') (h' : t'.Overlaid records t'') : t'' = t' := by
  refine ext_get? fun id => ?_
  rw [h' id, h id, ← Option.or_assoc, Option.or_self]

end Table.Overlaid

/-! ### Work that fails in part -/

namespace Act
variable {α π β γ : Type} [Shelved α π] {w : World}

/-- Pieces of work that each make some edits, whatever their results, make them in turn. -/
theorem forEach_logs (work : β → Act γ) (log : β → List (String × Option α)) (number : Except Error γ → Nat) {l : List β}
    (each : ∀ b ∈ l, ∀ v, w.Within [.shelf (Shelved.shelf α)] v →
      ∃ r v', (work b).run.run v = (r, v') ∧ number r = (log b).length ∧ v.Edited (log b) v') :
    ∃ results w', (Attempt.forEach work l).run w = (results, w') ∧
      (results.map number).sum = (l.flatMap log).length ∧ w.Edited (l.flatMap log) w' := by
  induction l generalizing w with
  | nil => exact ⟨[], w, rfl, rfl, .refl _ w, rfl⟩
  | cons b l ih =>
    obtain ⟨r, v, run, count, first⟩ := each b List.mem_cons_self w (.refl _ w)
    obtain ⟨results, w', runs, counts, rest⟩ := ih (w := v) fun c hc u hu =>
      each c (List.mem_cons_of_mem b hc) u (first.within.trans hu)
    refine ⟨r :: results, w', ?_, ?_, List.flatMap_cons ▸ first.trans rest⟩
    · rw [Attempt.forEach_cons, run, runs]
    · rw [List.map_cons, List.sum_cons, List.flatMap_cons, List.length_append, count, counts]

end Act

/-- The calls of a scan of storage. -/
def Call.OfScan : Call → Prop
  | .findAll .account | .storageItems _ | .upsert .storageItem _ => True
  | _ => False

namespace StorageScan

/-- From `w` on the accounts on record can be listed; whether the items of an address can be read, and whether a
record can be written, depends on the address and on the id. -/
structure Failing (unread unwritten : String → Bool) (w : World) : Prop where
  lists : w.Answers (· = .findAll .account)
  reads : ∀ n, w.calls ≤ n → ∀ address, (w.outages.call n (.storageItems address)).isSome = unread address
  writes : ∀ n, w.calls ≤ n → ∀ id, (w.outages.call n (.upsert .storageItem id)).isSome = unwritten id

/-- The records of the items of an account that are written. -/
def recordsOf (unread unwritten : String → Bool) (node : Chain.Node) (address : String) : List StorageItem :=
  if unread address then []
  else ((node.storageItems address).map (.ofChain address)).filter fun r => !unwritten r.id

/-- The records that are written, in the order of the ids of the accounts and of the lists of their items. -/
def records (unread unwritten : String → Bool) (node : Chain.Node) (accounts : Table String Indexed.Account) :
    List StorageItem :=
  accounts.values.flatMap fun a => recordsOf unread unwritten node a.address

/-- The number of items that a result stands for. -/
def number : Except Error Nat → Nat
  | .ok n => n
  | .error _ => 0

theorem total_eq_sum (results : List (Except Error Nat)) : total results = (results.map number).sum := by
  induction results with
  | nil => rfl
  | cons r results ih =>
    rw [List.map_cons, List.sum_cons, ← ih]
    cases r with
    | ok n => rfl
    | error e => exact (Nat.zero_add _).symm

theorem successes_eq_sum (results : List (Except Error Unit)) :
    Attempt.successes results = (results.map fun r => (Attempt.isSuccess r).toNat).sum := by
  induction results with
  | nil => rfl
  | cons r results ih =>
    rw [List.map_cons, List.sum_cons, ← ih, Attempt.successes, Attempt.successes, List.countP_cons, Nat.add_comm]
    cases Attempt.isSuccess r <;> rfl

variable {unread unwritten : String → Bool} {w w' : World}

namespace Failing

theorem within {parts : List Part} (h : Failing unread unwritten w) (hw : w.Within parts w') :
    Failing unread unwritten w' where
  lists := hw.answers h.lists
  reads n hn address := hw.outages ▸ h.reads n (Nat.le_trans hw.calls hn) address
  writes n hn id := hw.outages ▸ h.writes n (Nat.le_trans hw.calls hn) id

/-- A record that can be written is. -/
theorem upsert_logs (h : Failing unread unwritten w) (r : StorageItem) :
    ∃ result w', (Act.upsert r).run.run w = (result, w') ∧
      (Attempt.isSuccess result).toNat = (([r].filter fun r => !unwritten r.id).map binding).length ∧
      w.Edited (([r].filter fun r => !unwritten r.id).map binding) w' := by
  have fails := h.writes w.calls (Nat.le_refl _) r.id
  cases answer : w.outages.call w.calls (.upsert .storageItem r.id) with
  | some e =>
    rw [answer] at fails
    rw [List.filter_singleton, ← fails]
    exact ⟨_, _, Act.write_of_outage answer, rfl, .counted w⟩
  | none =>
    rw [answer] at fails
    rw [List.filter_singleton, ← fails]
    exact ⟨_, _, Act.write_of_ok answer rfl, rfl, .shelve (binding r) w⟩

theorem scanAccount_logs (h : Failing unread unwritten w) (address : String) :
    ∃ r w', (scanAccount address).run.run w = (r, w') ∧
      number r = ((recordsOf unread unwritten w.node address).map binding).length ∧
      w.Edited ((recordsOf unread unwritten w.node address).map binding) w' := by
  have fails := h.reads w.calls (Nat.le_refl _) address
  unfold scanAccount recordsOf
  rcases Act.ask_cases (.storageItems address) (fun n => .ok (n.storageItems address)) w with
    ⟨e, he, asked⟩ | ⟨answer, asked⟩
  · rw [he] at fails
    rw [Attempt.run_bind_of_error asked, ← fails]
    exact ⟨_, _, rfl, rfl, .counted w⟩
  · rw [answer] at fails
    obtain ⟨results, w', run, count, edited⟩ := Act.forEach_logs (w := w.counted)
      (fun item => Act.upsert (StorageItem.ofChain address item))
      (fun item => ([StorageItem.ofChain address item].filter fun r => !unwritten r.id).map binding)
      (fun r => (Attempt.isSuccess r).toNat) (l := w.node.storageItems address)
      fun item _ v hv => ((h.within (.counted [] w)).within hv).upsert_logs _
    have log : ((w.node.storageItems address).flatMap fun item =>
          ([StorageItem.ofChain address item].filter fun r => !unwritten r.id).map binding) =
        (((w.node.storageItems address).map (.ofChain address)).filter fun r => !unwritten r.id).map
          binding := by
      rw [List.map_eq_flatMap (f := StorageItem.ofChain address), List.filter_flatMap, List.map_flatMap]
    rw [log] at count edited
    rw [Attempt.run_bind_of_ok asked, Attempt.run_bind_of_ok (Attempt.run_lift _ _), run, ← fails]
    exact ⟨_, _, rfl, (successes_eq_sum results).trans count, (World.Edited.counted w).trans edited⟩

/-- A scan writes its records, and gives their number. -/
theorem run_logs (h : Failing unread unwritten w) :
    ∃ w', run.run.run w = (.ok (records unread unwritten w.node w.store.accounts).length, w') ∧
      w.Edited ((records unread unwritten w.node w.store.accounts).map binding) w' := by
  have found : (Act.findAll Indexed.Account).run.run w = (.ok w.store.accounts.values, w.counted) :=
    Act.findAll_of_answers h.lists rfl
  obtain ⟨results, w', run, count, edited⟩ := Act.forEach_logs (w := w.counted)
    (fun a : Indexed.Account => scanAccount a.address)
    (fun a => (recordsOf unread unwritten w.node a.address).map binding) number
    (l := w.store.accounts.values) fun a _ v hv => by
      rw [← World.counted_node, ← hv.node (by decide)]
      exact ((h.within (.counted [] w)).within hv).scanAccount_logs a.address
  rw [← List.map_flatMap] at count edited
  refine ⟨w', ?_, (World.Edited.counted w).trans edited⟩
  rw [List.length_map] at count
  unfold StorageScan.run records
  rw [Attempt.run_bind_of_ok found, Attempt.run_bind_of_ok (Attempt.run_lift _ _), run, total_eq_sum, count]
  rfl

/-- Where the calls of a scan are answered all records are written. -/
theorem none (h : w.Answers Call.OfScan) : Failing (fun _ => false) (fun _ => false) w where
  lists := h.mono fun _ same => same ▸ trivial
  reads n hn address := by rw [h n hn (.storageItems address) trivial]; rfl
  writes n hn id := by rw [h n hn (.upsert .storageItem id) trivial]; rfl

end Failing

/-- The scan is the indexer's own, and is wanted. -/
structure Made (setup : Setup) : Prop where
  own : setup.scanStorage = some run
  reindexes : setup.config.reindexes = true

theorem Made.apply_scan {setup : Setup} (made : Made setup) (w : World) :
    Piece.scan.apply setup w = (run.run.run w).2 := by
  show ((Tick.scanStorage setup).run w).2 = _
  unfold Tick.scanStorage
  rw [made.own]
  dsimp only
  rw [made.reindexes]
  rfl

@[simp] theorem recordsOf_none (node : Chain.Node) (address : String) :
    recordsOf (fun _ => false) (fun _ => false) node address = (node.storageItems address).map (.ofChain address) := by
  simp [recordsOf]

end StorageScan

end ChainIndex
