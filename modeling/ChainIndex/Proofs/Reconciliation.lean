import ChainIndex.Proofs.Diff
import Mathlib.Data.List.Nodup

/-!
# Where a reconciliation leads

Where keys are distinct, the operations of a reconciliation follow from the two lists alone: `Diff.Steps`
lists them, and says that they lead from the stored entries to a collection with the incoming keys, which
reconciling the same entries again leaves as it is. Merging has to keep the key of an entry, and doing it
twice has to do no more than doing it once (`Diff.Policy`).
-/

set_option autoImplicit false

namespace ChainIndex

namespace Diff

variable {α κ : Type}

/-- The incoming entry as it is: what merging does where nothing has to be taken over. -/
def overwrite (incoming _stored : α) : α := incoming

/-- A way of merging entries of one key. -/
structure Policy (key : α → κ) (merge : α → α → α) : Prop where
  key_merge {a old : α} (same : key a = key old) : key (merge a old) = key a
  merge_self (a : α) : merge a a = a
  merge_merge (a old : α) : merge a (merge a old) = merge a old

theorem policy_overwrite (key : α → κ) : Policy key overwrite := ⟨fun _ => rfl, fun _ => rfl, fun _ _ => rfl⟩

/-- The writes to a collection by keys: entries that are created or updated are bound to their keys, and the
keys of deleted ones are freed. -/
def edits (key : α → κ) (d : Diff α) : List (κ × Option α) :=
  (d.create ++ d.update).map (fun a => (key a, some a)) ++ d.delete.map fun a => (key a, none)

/-- An entry merged with the one of its key, if there is one and that makes a difference. -/
def revision? [DecidableEq κ] [BEq α] (key : α → κ) (merge : α → α → α) (old : List α) (a : α) : Option α :=
  (old.find? fun o => key o = key a).bind fun o => if merge a o == o then none else some (merge a o)

/-- The collection that the operations lead to. -/
def applied [Key κ] (key : α → κ) (d : Diff α) (stored : List α) : Table κ α := (keyed key stored).edit (d.edits key)

/-- The operations that lead from the entries `old` to the entries `new`, and where they lead. -/
structure Steps [Key κ] [DecidableEq κ] [BEq α] (key : α → κ) (merge : α → α → α) (old new : List α)
    (d : Diff α) : Prop where
  /-- What is new, in the order of `new`. -/
  create : d.create = new.filter fun a => key a ∉ old.map key
  /-- What is in both, in the order of `new`: merged, where that differs from what is stored. -/
  update : d.update = new.filterMap (revision? key merge old)
  /-- What does not come in any more, in the order of keys. -/
  delete : d.delete.Perm (old.filter fun a => key a ∉ new.map key)
  ascending : d.delete.Pairwise fun a b => Key.before (key a) (key b) = true
  /-- No key has two operations. -/
  disjoint : ((d.create ++ d.update ++ d.delete).map key).Nodup
  keys : ∀ k, (d.applied key old).contains k = true ↔ k ∈ new.map key
  again : reconcile key merge (d.applied key old).values new = empty

/-! ### Entries and their keys -/

theorem mem_edits {key : α → κ} {d : Diff α} {k : κ} {v : Option α} : (k, v) ∈ d.edits key ↔
    (∃ a, (a ∈ d.create ∨ a ∈ d.update) ∧ key a = k ∧ some a = v) ∨ ∃ a ∈ d.delete, key a = k ∧ none = v := by
  simp [edits, List.mem_append, List.mem_map, or_and_right, exists_or, or_assoc]

section
variable [DecidableEq κ] {key : α → κ} {l : List α} (nodup : (l.map key).Nodup)
include nodup

theorem find?_eq_some_iff (k : κ) (a : α) : (l.find? fun a => key a = k) = some a ↔ a ∈ l ∧ key a = k := by
  constructor
  · intro found
    exact ⟨List.mem_of_find?_eq_some found, by simpa using List.find?_some found⟩
  · rintro ⟨ha, same⟩
    cases found : l.find? fun a => key a = k with
    | none => exact absurd same (by simpa using List.find?_eq_none.mp found a ha)
    | some b =>
      have place : key b = k := by simpa using List.find?_some found
      rw [List.inj_on_of_nodup_map nodup (List.mem_of_find?_eq_some found) ha (place.trans same.symm)]

theorem revision?_eq_some_iff [BEq α] {merge : α → α → α} (a u : α) : revision? key merge l a = some u ↔
    ∃ o ∈ l, key o = key a ∧ (merge a o == o) = false ∧ u = merge a o := by
  rw [revision?, Option.bind_eq_some_iff]
  refine exists_congr fun o => ?_
  rw [find?_eq_some_iff nodup, and_assoc]
  cases merge a o == o <;> simp [eq_comm]

/-- What stands under the key of an incoming entry in the end. -/
def settled [BEq α] (key : α → κ) (merge : α → α → α) (old : List α) (a : α) : α :=
  ((old.find? fun o => key o = key a).map fun o => if merge a o == o then o else merge a o).getD a

section
variable [BEq α] {merge : α → α → α}

/-- It is the entry as it comes in where none is stored. -/
theorem settled_cases (merge : α → α → α) (a : α) :
    (key a ∉ l.map key ∧ settled key merge l a = a) ∨ ∃ o ∈ l, key o = key a ∧
      ((merge a o == o) = true ∧ settled key merge l a = o ∨
        (merge a o == o) = false ∧ settled key merge l a = merge a o) := by
  unfold settled
  cases found : l.find? fun o => key o = key a with
  | none => exact .inl ⟨by simpa using List.find?_eq_none.mp found, rfl⟩
  | some o =>
    obtain ⟨ho, same⟩ := (find?_eq_some_iff nodup (key a) o).mp found
    refine .inr ⟨o, ho, same, ?_⟩
    rw [Option.map_some, Option.getD_some]
    split
    · next kept => exact .inl ⟨kept, rfl⟩
    · next changed => exact .inr ⟨Bool.eq_false_iff.mpr changed, rfl⟩

/-- A stored entry is merged with, also where that leaves it as it is. -/
theorem settled_of_stored [LawfulBEq α] {a o : α} (ho : o ∈ l) (same : key o = key a) :
    settled key merge l a = merge a o := by
  rcases settled_cases nodup merge a with ⟨new, -⟩ | ⟨o', ho', same', h⟩
  · exact absurd (List.mem_map.mpr ⟨o, ho, same⟩) new
  · obtain rfl := List.inj_on_of_nodup_map nodup ho' ho (same'.trans same.symm)
    rcases h with ⟨kept, h⟩ | ⟨-, h⟩
    · exact h.trans (eq_of_beq kept).symm
    · exact h

variable (policy : Policy key merge)
include policy

theorem key_settled (a : α) : key (settled key merge l a) = key a := by
  rcases settled_cases nodup merge a with ⟨-, h⟩ | ⟨o, -, same, ⟨-, h⟩ | ⟨-, h⟩⟩
  · rw [h]
  · rw [h, same]
  · rw [h, policy.key_merge same.symm]

/-- Merging once more changes nothing. -/
theorem merge_settled [ReflBEq α] (a : α) : (merge a (settled key merge l a) == settled key merge l a) = true := by
  rcases settled_cases nodup merge a with ⟨-, h⟩ | ⟨o, -, -, ⟨kept, h⟩ | ⟨-, h⟩⟩
  · rw [h, policy.merge_self]
    exact beq_self_eq_true a
  · rw [h, kept]
  · rw [h, policy.merge_merge]
    exact beq_self_eq_true _

end

end

variable [Key κ]

/-- Every entry stands under its own key. -/
def Own (key : α → κ) (t : Table κ α) : Prop := t.All fun k a => key a = k

theorem own_keyed (key : α → κ) (l : List α) : Own key (keyed key l) := fun _ _ found => (mem_of_get?_keyed found).2

theorem keyed_values {key : α → κ} {t : Table κ α} (own : Own key t) : keyed key t.values = t := by
  have entries : (t.values.map fun a => (key a, a)) = t.entries := by
    rw [Table.values, List.map_map]
    refine (List.map_congr_left fun e he => ?_).trans (List.map_id _)
    exact Prod.ext (own e.1 e.2 ((t.mem_entries_iff e.1 e.2).mp he)) rfl
  rw [keyed, entries, Table.ofList_entries]

theorem get?_keyed [DecidableEq κ] {key : α → κ} {l : List α} (nodup : (l.map key).Nodup) (k : κ) :
    (keyed key l).get? k = l.find? fun a => key a = k := by
  refine Option.ext fun a => ?_
  rw [get?_keyed_iff nodup, find?_eq_some_iff nodup]

/-- The entries that are left when all incoming ones were looked up are listed in the order of their keys. -/
theorem collect_ascending [BEq α] {key : α → κ} {merge : α → α → α} {stored : Table κ α} (own : Own key stored)
    (incoming : List α) :
    (collect key merge stored incoming).delete.Pairwise fun a b => Key.before (key a) (key b) = true := by
  induction incoming generalizing stored with
  | nil =>
    refine List.pairwise_map.mpr (stored.ordered.imp_of_mem fun {d e} hd he before => ?_)
    rwa [own d.1 d.2 ((stored.mem_entries_iff _ _).mp hd), own e.1 e.2 ((stored.mem_entries_iff _ _).mp he)]
  | cons a rest ih =>
    rw [collect_cons]
    exact ih (Table.All.erase own _)

variable [DecidableEq κ] [BEq α] {key : α → κ} {merge : α → α → α} {old new : List α}

/-! ### The operations -/

section
variable (hold : (old.map key).Nodup) (hnew : (new.map key).Nodup)
include hold hnew

theorem reconcile_create : (reconcile key merge old new).create = new.filter fun a => key a ∉ old.map key := by
  refine (collect_create hnew).trans (List.filter_congr fun a _ => ?_)
  rw [Bool.eq_iff_iff, Bool.not_eq_true', ← Bool.not_eq_true, decide_eq_true_iff]
  exact not_congr (contains_keyed hold (key a))

theorem reconcile_update : (reconcile key merge old new).update = new.filterMap (revision? key merge old) := by
  refine (collect_update hnew).trans (List.filterMap_congr fun a _ => ?_)
  rw [revision?, ← get?_keyed hold]
  rfl

variable (policy : Policy key merge)
include policy

/-- An update has the key of the incoming entry that it comes from, which is in both lists. -/
theorem key_of_update {u : α} (hu : u ∈ (reconcile key merge old new).update) :
    key u ∈ old.map key ∧ key u ∈ new.map key := by
  rw [reconcile_update hold hnew] at hu
  obtain ⟨a, ha, h⟩ := List.mem_filterMap.mp hu
  obtain ⟨o, ho, same, -, rfl⟩ := (revision?_eq_some_iff hold a u).mp h
  rw [policy.key_merge same.symm]
  exact ⟨List.mem_map.mpr ⟨o, ho, same⟩, List.mem_map_of_mem ha⟩

/-- No key has two operations: created keys are new, updated ones are in both lists, deleted ones are gone. -/
theorem reconcile_nodup : (((reconcile key merge old new).create ++ (reconcile key merge old new).update ++
    (reconcile key merge old new).delete).map key).Nodup := by
  have created : ((reconcile key merge old new).create.map key).Nodup := by
    rw [reconcile_create hold hnew]
    exact hnew.sublist (List.filter_sublist.map key)
  have updated : ((reconcile key merge old new).update.map key).Nodup := by
    rw [reconcile_update hold hnew, List.nodup_iff_pairwise_ne, List.pairwise_map, List.pairwise_filterMap]
    refine (List.pairwise_map.mp hnew).imp fun {a b} ne u hu v hv => ?_
    obtain ⟨o, -, same, -, rfl⟩ := (revision?_eq_some_iff hold a u).mp hu
    obtain ⟨o', -, same', -, rfl⟩ := (revision?_eq_some_iff hold b v).mp hv
    rwa [policy.key_merge same.symm, policy.key_merge same'.symm]
  have deleted : ((reconcile key merge old new).delete.map key).Nodup :=
    List.pairwise_map.mpr ((collect_ascending (own_keyed key old) new).imp Key.ne)
  simp only [List.map_append, List.nodup_append, created, updated, deleted, true_and, List.mem_append, List.mem_map]
  refine ⟨?_, ?_⟩
  · rintro _ ⟨a, ha, rfl⟩ _ ⟨u, hu, rfl⟩ same
    exact ((mem_reconcile_create hold hnew a).mp ha).2 (same ▸ (key_of_update hold hnew policy hu).1)
  · rintro k hk _ ⟨o, ho, rfl⟩ rfl
    refine ((mem_reconcile_delete hold hnew o).mp ho).2 ?_
    rcases hk with ⟨a, ha, same⟩ | ⟨u, hu, same⟩
    · exact same ▸ List.mem_map_of_mem ((mem_reconcile_create hold hnew a).mp ha).1
    · exact same ▸ (key_of_update hold hnew policy hu).2

/-! ### Where they lead -/

/-- What is written to a key stands there in the end. -/
theorem get?_applied_of_edit {k : κ} {v : Option α} (h : (k, v) ∈ (reconcile key merge old new).edits key) :
    ((reconcile key merge old new).applied key old).get? k = v := by
  refine Table.get?_edit_of_nodup ?_ h
  have nodup := reconcile_nodup hold hnew policy
  simpa [edits, Function.comp_def] using nodup

/-- An entry that merging leaves as it is stored is not written. -/
theorem not_mem_edits {a o : α} (ha : a ∈ new) (ho : o ∈ old) (same : key o = key a)
    (kept : (merge a o == o) = true) (v : Option α) : (key a, v) ∉ (reconcile key merge old new).edits key := by
  rw [mem_edits]
  rintro (⟨b, hb | hb, place, -⟩ | ⟨b, hb, place, -⟩)
  · exact ((mem_reconcile_create hold hnew b).mp hb).2 (List.mem_map.mpr ⟨o, ho, same.trans place.symm⟩)
  · rw [reconcile_update hold hnew] at hb
    obtain ⟨c, hc, h⟩ := List.mem_filterMap.mp hb
    obtain ⟨o', ho', same', changed, rfl⟩ := (revision?_eq_some_iff hold c b).mp h
    rw [policy.key_merge same'.symm] at place
    obtain rfl := List.inj_on_of_nodup_map hnew hc ha place
    obtain rfl := List.inj_on_of_nodup_map hold ho' ho (same'.trans same.symm)
    cases kept.symm.trans changed
  · exact ((mem_reconcile_delete hold hnew b).mp hb).2 (List.mem_map.mpr ⟨a, ha, place.symm⟩)

end

section
variable (hold : (old.map key).Nodup) (policy : Policy key merge) (hnew : (new.map key).Nodup)
include hold policy hnew

theorem get?_applied_of_mem {a : α} (ha : a ∈ new) :
    ((reconcile key merge old new).applied key old).get? (key a) = some (settled key merge old a) := by
  rcases settled_cases hold merge a with ⟨fresh, h⟩ | ⟨o, ho, same, ⟨kept, h⟩ | ⟨changed, h⟩⟩
  · rw [h]
    exact get?_applied_of_edit hold hnew policy
      (mem_edits.mpr (.inl ⟨a, .inl ((mem_reconcile_create hold hnew a).mpr ⟨ha, fresh⟩), rfl, rfl⟩))
  · rw [applied, Table.get?_edit_of_not_mem (not_mem_edits hold hnew policy ha ho same kept), h]
    exact (get?_keyed_iff hold _ o).mpr ⟨ho, same⟩
  · rw [h]
    refine get?_applied_of_edit hold hnew policy (mem_edits.mpr (.inl ⟨merge a o, .inr ?_, policy.key_merge same.symm, rfl⟩))
    rw [reconcile_update hold hnew, List.mem_filterMap]
    exact ⟨a, ha, (revision?_eq_some_iff hold a _).mpr ⟨o, ho, same, changed, rfl⟩⟩

/-- Nothing stands under a key that does not come in. -/
theorem get?_applied_of_not_mem {k : κ} (out : k ∉ new.map key) :
    ((reconcile key merge old new).applied key old).get? k = none := by
  cases stored : (keyed key old).get? k with
  | none =>
    rcases Table.get?_edit_cases (keyed key old) k ((reconcile key merge old new).edits key) with same | written
    · exact same.trans stored
    · rcases mem_edits.mp written with ⟨a, ha | ha, rfl, -⟩ | ⟨-, -, -, freed⟩
      · exact absurd (List.mem_map_of_mem ((mem_reconcile_create hold hnew a).mp ha).1) out
      · exact absurd (key_of_update hold hnew policy ha).2 out
      · exact freed.symm
  | some o =>
    obtain ⟨ho, rfl⟩ := (get?_keyed_iff hold k o).mp stored
    exact get?_applied_of_edit hold hnew policy
      (mem_edits.mpr (.inr ⟨o, (mem_reconcile_delete hold hnew o).mpr ⟨ho, out⟩, rfl, rfl⟩))

theorem own_applied : Own key ((reconcile key merge old new).applied key old) := by
  intro k v found
  by_cases incoming : k ∈ new.map key
  · obtain ⟨a, ha, rfl⟩ := List.mem_map.mp incoming
    rw [get?_applied_of_mem hold policy hnew ha] at found
    obtain rfl := Option.some.inj found
    exact key_settled hold policy a
  · rw [get?_applied_of_not_mem hold policy hnew incoming] at found
    cases found

/-- Reconciling the same entries again leaves nothing to do: each of them finds what it would be merged to. -/
theorem reconcile_applied [ReflBEq α] :
    reconcile key merge ((reconcile key merge old new).applied key old).values new = empty := by
  generalize reached : (reconcile key merge old new).applied key old = t
  have found : ∀ a ∈ new, t.get? (key a) = some (settled key merge old a) := fun a ha =>
    reached ▸ get?_applied_of_mem hold policy hnew ha
  have same : reconcile key merge t.values new = collect key merge t new := by
    show collect key merge (keyed key t.values) new = _
    rw [keyed_values (reached ▸ own_applied hold policy hnew : Own key t)]
  have created : (collect key merge t new).create = [] := by
    rw [collect_create hnew, List.filter_eq_nil_iff]
    intro a ha
    simp [Table.contains, found a ha]
  have updated : (collect key merge t new).update = [] := by
    rw [collect_update hnew, List.filterMap_eq_nil_iff]
    intro a ha
    simp [update?, found a ha, merge_settled hold policy a]
  have deleted : (collect key merge t new).delete = [] := by
    refine List.eq_nil_iff_forall_not_mem.mpr fun a ha => ?_
    obtain ⟨k, stored, out⟩ := (mem_collect_delete hnew a).mp ha
    rw [← reached, get?_applied_of_not_mem hold policy hnew out] at stored
    cases stored
  rw [same]
  show Diff.mk (collect key merge t new).create (collect key merge t new).update (collect key merge t new).delete = _
  rw [created, updated, deleted]
  rfl

/-- The operations of a reconciliation are those that lead from the stored entries to the incoming ones. -/
theorem reconcile_leads [ReflBEq α] : Steps key merge old new (reconcile key merge old new) where
  create := reconcile_create hold hnew
  update := reconcile_update hold hnew
  delete := by
    have once : (reconcile key merge old new).delete.Nodup :=
      (collect_ascending (own_keyed key old) new).imp fun before same => Key.ne before (congrArg key same)
    refine (List.perm_ext_iff_of_nodup once ((List.Nodup.of_map key hold).filter _)).mpr fun a => ?_
    rw [mem_reconcile_delete hold hnew, List.mem_filter, decide_eq_true_iff]
  ascending := collect_ascending (own_keyed key old) new
  disjoint := reconcile_nodup hold hnew policy
  keys k := by
    by_cases incoming : k ∈ new.map key
    · obtain ⟨a, ha, rfl⟩ := List.mem_map.mp incoming
      simp [Table.contains, get?_applied_of_mem hold policy hnew ha, incoming]
    · simp [Table.contains, get?_applied_of_not_mem hold policy hnew incoming, incoming]
  again := reconcile_applied hold policy hnew

end

end Diff

/-! ### Keys of accounts -/

open Indexed (AccountKey)

/-- What a key takes over from the stored one it keeps when it is merged again. -/
theorem Indexed.AccountKey.policy_merge {κ : Type} {key : AccountKey → κ}
    (own : ∀ a b : AccountKey, key a = key b → key (a.merge b) = key a) : Diff.Policy key merge where
  key_merge same := own _ _ same
  merge_self a := by simp [merge]
  merge_merge a old := by
    cases blank : a.privateKey.all String.isEmpty <;> simp [merge, blank]

namespace Diff

/-- Reconciling gives the step from the stored entries to the incoming ones, where each list has distinct
keys: where the incoming entries are taken as they are, and for keys of accounts. Any part of a key may tell
keys apart if merging leaves it as it is. A stored key keeps its time of creation, and its private key where
none comes in. -/
theorem reconcile_steps :
    (∀ {α κ : Type} [Key κ] [DecidableEq κ] [BEq α] [ReflBEq α] (key : α → κ) (old new : List α),
      (old.map key).Nodup → (new.map key).Nodup →
        Steps key overwrite old new (reconcile key overwrite old new)) ∧
      ∀ {κ : Type} [Key κ] [DecidableEq κ] (key : AccountKey → κ),
        (∀ a b : AccountKey, key a = key b → key (a.merge b) = key a) → ∀ old new : List AccountKey,
        (old.map key).Nodup → (new.map key).Nodup →
          let d := reconcile key AccountKey.merge old new
          Steps key AccountKey.merge old new d ∧
            ∀ a ∈ new, ∀ o ∈ old, key o = key a → ∃ k, (d.applied key old).get? (key a) = some k ∧
              k.createdAt = o.createdAt ∧
              (a.privateKey = none ∨ a.privateKey = some "" → k.privateKey = o.privateKey) := by
  refine ⟨fun key _ _ hold hnew => reconcile_leads hold (policy_overwrite key) hnew, fun key own old new hold hnew => ?_⟩
  have policy := AccountKey.policy_merge own
  refine ⟨reconcile_leads hold policy hnew, fun a ha o ho same => ⟨a.merge o, ?_, rfl, fun blank => ?_⟩⟩
  · rw [get?_applied_of_mem hold policy hnew ha, settled_of_stored hold ho same]
  · rcases blank with none | blank
    · simp [AccountKey.merge, none]
    · simp [AccountKey.merge, blank]

/-! ### A key that changes beside one that goes and one that comes -/

def storedPair : List AccountKey :=
  [⟨"0x01.aa", 0, "0x01", "aa", none, none, 1000, 0, false, none, .epoch⟩,
    ⟨"0x01.bb", 1, "0x01", "bb", none, none, 1000, 0, false, some "secret", .epoch⟩]

def reportedPair : List AccountKey :=
  [⟨"0x01.cc", 2, "0x01", "cc", none, none, 1000, 0, false, none, .epoch⟩,
    ⟨"0x01.bb", 1, "0x01", "bb", none, none, 500, 3, true, some "", .epoch⟩]

theorem reconcile_steps_pairs :
    (storedPair.map AccountKey.slot).Nodup ∧ (reportedPair.map AccountKey.slot).Nodup ∧
      Steps AccountKey.slot overwrite storedPair reportedPair
        (reconcile AccountKey.slot overwrite storedPair reportedPair) ∧
      Steps AccountKey.slot AccountKey.merge storedPair reportedPair
        (reconcile AccountKey.slot AccountKey.merge storedPair reportedPair) ∧
      ∃ k, ((reconcile AccountKey.slot AccountKey.merge storedPair reportedPair).applied
        AccountKey.slot storedPair).get? ("0x01", 1) = some k ∧ k.privateKey = some "secret" := by
  have hold : (storedPair.map AccountKey.slot).Nodup := by decide +kernel
  have hnew : (reportedPair.map AccountKey.slot).Nodup := by decide +kernel
  obtain ⟨steps, keeps⟩ := reconcile_steps.2 AccountKey.slot (fun _ _ _ => rfl) _ _ hold hnew
  obtain ⟨k, found, -, secret⟩ := keeps _ (.tail _ (.head _)) _ (.tail _ (.head _)) rfl
  exact ⟨hold, hnew, reconcile_steps.1 AccountKey.slot _ _ hold hnew, steps, k, found, secret (.inr rfl)⟩

end Diff

end ChainIndex
