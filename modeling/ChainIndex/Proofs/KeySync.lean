import ChainIndex.Proofs.Diff
import ChainIndex.Proofs.Edits
import Mathlib.Data.List.Nodup

/-!
# Synchronising the keys of an account

The reconciliation tells keys apart by their places in the account, and the index tells them apart by
their public keys. Synchronising therefore is a list of edits (`KeySync.log`): created keys are bound,
a rotated key unbinds the id that its place had and binds its own, and deleted keys are unbound.
-/

set_option autoImplicit false

namespace ChainIndex.KeySync

open Indexed (AccountKey keyId)

def storedKeys (address : String) (t : Table String AccountKey) : List AccountKey :=
  t.values.filter fun k => k.address == address

/-- The keys that the chain reports, as records. -/
def reportedKeys (address : String) (keys : List Chain.AccountKey) (observedAt : Timestamp) :
    List AccountKey :=
  keys.map fun k => .ofChain address k observedAt

/-- The edits by which a key is written over the one that is stored in its place. -/
def moves (stored : List AccountKey) (k : AccountKey) : List (String × Option AccountKey) :=
  match idAt? stored k.index with
  | some previous => if previous = k.id then [(k.id, some k)] else [(previous, none), (k.id, some k)]
  | none => [(k.id, some k)]

def writes (keys : List AccountKey) : List (String × Option AccountKey) :=
  keys.flatMap fun k => [(k.id, some k)]

def erasures (keys : List AccountKey) : List (String × Option AccountKey) :=
  keys.flatMap fun k => [(k.id, none)]

/-- What a synchronisation makes up for. -/
def delta (address : String) (keys : List Chain.AccountKey) (t : Table String AccountKey) (observedAt : Timestamp) :
    Diff AccountKey :=
  diff (storedKeys address t) (reportedKeys address keys observedAt)

/-- The record that a reported key leads to where a key is stored in its place. -/
def merged (address : String) (k : Chain.AccountKey) (observedAt : Timestamp) (s : AccountKey) : AccountKey :=
  (AccountKey.ofChain address k observedAt).merge s

/-- The edits that make up a synchronisation. -/
def log (stored : List AccountKey) (d : Diff AccountKey) : List (String × Option AccountKey) :=
  writes d.create ++ d.update.flatMap (moves stored) ++ erasures d.delete

/-- Every record stands under the id that follows from its address and its public key. -/
def Canonical (t : Table String AccountKey) : Prop :=
  ∀ id k, t.get? id = some k → k.id = id ∧ id = keyId k.address k.publicKey

/-- An index of keys and a list of reported keys that can be synchronised: ids are canonical, and the
places of the stored keys of the account, the reported places and the reported public keys are
distinct. -/
structure Fits (address : String) (keys : List Chain.AccountKey) (t : Table String AccountKey) : Prop where
  canonical : Canonical t
  slots : ∀ id id' k k', t.get? id = some k → t.get? id' = some k' → k.address = address →
    k'.address = address → k.index = k'.index → id = id'
  indexes : (keys.map (·.index)).Nodup
  publicKeys : (keys.map (·.publicKey)).Nodup

/-- What a synchronisation needs of an index: records stand under their own ids, and those of the account
under the ids that follow from their public keys; the rest is as in `Fits`. -/
structure Suits (address : String) (keys : List Chain.AccountKey) (t : Table String AccountKey) : Prop where
  own : ∀ id k, t.get? id = some k → k.id = id
  named : ∀ id k, t.get? id = some k → k.address = address → id = keyId address k.publicKey
  slots : ∀ id id' k k', t.get? id = some k → t.get? id' = some k' → k.address = address →
    k'.address = address → k.index = k'.index → id = id'
  indexes : (keys.map (·.index)).Nodup
  publicKeys : (keys.map (·.publicKey)).Nodup

theorem Fits.suits {address : String} {keys : List Chain.AccountKey} {t : Table String AccountKey}
    (fits : Fits address keys t) : Suits address keys t where
  own id k hk := (fits.canonical id k hk).1
  named id k hk own := own ▸ (fits.canonical id k hk).2
  slots := fits.slots
  indexes := fits.indexes
  publicKeys := fits.publicKeys

instance {address : String} {keys : List Chain.AccountKey} {t : Table String AccountKey} :
    CoeOut (Fits address keys t) (Suits address keys t) := ⟨Fits.suits⟩

section
variable {address : String} {keys : List Chain.AccountKey} {t : Table String AccountKey}
  {observedAt : Timestamp}

theorem mem_writes {l : List AccountKey} {id : String} {v : Option AccountKey} :
    (id, v) ∈ writes l ↔ ∃ k ∈ l, id = k.id ∧ v = some k := by
  simp [writes, List.mem_flatMap]

theorem mem_erasures {l : List AccountKey} {id : String} {v : Option AccountKey} :
    (id, v) ∈ erasures l ↔ ∃ k ∈ l, id = k.id ∧ v = none := by
  simp [erasures, List.mem_flatMap]

theorem mem_storedKeys {s : AccountKey} :
    s ∈ storedKeys address t ↔ (∃ id, t.get? id = some s) ∧ s.address = address := by
  unfold storedKeys
  rw [List.mem_filter, Table.mem_values_iff]
  simp

theorem keyId_inj {a b : String} (h : keyId address a = keyId address b) : a = b :=
  (String.append_right_inj _).mp h

/-! ### What the operations are about -/

theorem slot_ofChain (hA : Address.prefixed address = address) (k : Chain.AccountKey) (observedAt : Timestamp) :
    (AccountKey.ofChain address k observedAt).slot = (address, k.index) := by
  rw [show (AccountKey.ofChain address k observedAt).slot = (Address.prefixed address, k.index) from rfl, hA]

theorem slot_eq_iff {s : AccountKey} (hs : s ∈ storedKeys address t) (index : UInt32) :
    s.slot = (address, index) ↔ s.index = index := by
  rw [AccountKey.slot, (mem_storedKeys.mp hs).2, Prod.mk.injEq, and_iff_right rfl]

/-- The stored key with an id that is found by its place. -/
theorem stored_of_idAt? {stored : List AccountKey} {index : UInt32} {id : String} (h : idAt? stored index = some id) :
    ∃ s ∈ stored, s.index = index ∧ s.id = id := by
  obtain ⟨s, last, same⟩ := Option.map_eq_some_iff.mp h
  obtain ⟨hs, place⟩ := List.mem_filter.mp (List.mem_of_getLast? last)
  exact ⟨s, hs, beq_iff_eq.mp place, same⟩

theorem exists_idAt? {stored : List AccountKey} {s : AccountKey} (hs : s ∈ stored) :
    ∃ id, idAt? stored s.index = some id := by
  have here : s ∈ stored.filter fun k => k.index == s.index := List.mem_filter.mpr ⟨hs, beq_self_eq_true _⟩
  rw [idAt?, List.getLast?_eq_getLast_of_ne_nil (List.ne_nil_of_mem here)]
  exact ⟨_, rfl⟩

/-- What is found in the place of a key is stored there. -/
theorem stored_of_slot {slot : String × UInt32} {s : AccountKey}
    (h : (Table.ofList ((storedKeys address t).map fun k => (k.slot, k))).get? slot = some s) :
    s ∈ storedKeys address t ∧ s.slot = slot :=
  Diff.mem_of_get?_keyed h

theorem reported_of_create {a : AccountKey} (h : a ∈ (delta address keys t observedAt).create) :
    ∃ k ∈ keys, a = .ofChain address k observedAt := by
  obtain ⟨k, hk, rfl⟩ := List.mem_map.mp (Diff.mem_of_mem_create h)
  exact ⟨k, hk, rfl⟩

theorem stored_of_delete {s : AccountKey} (h : s ∈ (delta address keys t observedAt).delete) :
    s ∈ storedKeys address t := by
  obtain ⟨slot, found⟩ := Diff.mem_of_mem_delete (List.mem_of_mem_filter h)
  exact (stored_of_slot found).1

/-- An update merges a reported key with the one that is stored in its place. -/
theorem merged_of_update {u : AccountKey} (h : u ∈ (delta address keys t observedAt).update) :
    ∃ k ∈ keys, ∃ s ∈ storedKeys address t, s.index = k.index ∧ u = merged address k observedAt s := by
  obtain ⟨a, ha, s, found, rfl⟩ := Diff.merged_of_mem_update h
  obtain ⟨k, hk, rfl⟩ := List.mem_map.mp ha
  obtain ⟨hs, place⟩ := stored_of_slot found
  exact ⟨k, hk, s, hs, congrArg Prod.snd place, rfl⟩

theorem stored_of_update {u : AccountKey} (h : u ∈ (delta address keys t observedAt).update) :
    ∃ s ∈ storedKeys address t, s.index = u.index := by
  obtain ⟨k, -, s, hs, place, rfl⟩ := merged_of_update h
  exact ⟨s, hs, place⟩

/-- No two updates are about one place. -/
theorem update_indexes : (delta address keys t observedAt).update.Pairwise fun u v => u.index ≠ v.index := by
  have slots : (delta address keys t observedAt).update.Pairwise fun u v => u.slot ≠ v.slot :=
    Diff.pairwise_update fun _ _ => rfl
  refine slots.imp_of_mem fun {u v} hu hv other same => other ?_
  obtain ⟨_, hk, _, _, rfl⟩ := Diff.merged_of_mem_update hu
  obtain ⟨_, hk', _, _, rfl⟩ := Diff.merged_of_mem_update hv
  obtain ⟨k, -, rfl⟩ := List.mem_map.mp hk
  obtain ⟨k', -, rfl⟩ := List.mem_map.mp hk'
  exact Prod.ext rfl same

/-! ### What is stored -/

namespace Suits

theorem get?_of_mem (fits : Suits address keys t) {s : AccountKey} (hs : s ∈ storedKeys address t) :
    t.get? s.id = some s := by
  obtain ⟨⟨id, hid⟩, -⟩ := mem_storedKeys.mp hs
  rw [fits.own id s hid]
  exact hid

theorem id_of_mem (fits : Suits address keys t) {s : AccountKey} (hs : s ∈ storedKeys address t) :
    s.id = keyId address s.publicKey := by
  obtain ⟨⟨id, hid⟩, own⟩ := mem_storedKeys.mp hs
  rw [fits.own id s hid, fits.named id s hid own]

theorem eq_of_index (fits : Suits address keys t) {s s' : AccountKey} (hs : s ∈ storedKeys address t)
    (hs' : s' ∈ storedKeys address t) (same : s.index = s'.index) : s = s' := by
  have h := fits.get?_of_mem hs
  have h' := fits.get?_of_mem hs'
  have ids := fits.slots _ _ _ _ h h' (mem_storedKeys.mp hs).2 (mem_storedKeys.mp hs').2 same
  rw [ids] at h
  exact Option.some.inj (h.symm.trans h')

theorem eq_of_publicKey (fits : Suits address keys t) {s s' : AccountKey} (hs : s ∈ storedKeys address t)
    (hs' : s' ∈ storedKeys address t) (same : s.publicKey = s'.publicKey) : s = s' := by
  have h := fits.get?_of_mem hs
  rw [fits.id_of_mem hs, same, ← fits.id_of_mem hs'] at h
  exact Option.some.inj (h.symm.trans (fits.get?_of_mem hs'))

theorem nodup_stored (fits : Suits address keys t) :
    ((storedKeys address t).map AccountKey.slot).Nodup := by
  have values := Table.nodup_values AccountKey.id fun id k hk => fits.own id k hk
  refine List.Nodup.map_on ?_ (values.sublist List.filter_sublist)
  intro s hs s' hs' same
  exact fits.eq_of_index hs hs' (congrArg Prod.snd same)

theorem get?_slot (fits : Suits address keys t) (index : UInt32) (s : AccountKey) :
    (Table.ofList ((storedKeys address t).map fun k => (k.slot, k))).get? (address, index) = some s ↔
      s ∈ storedKeys address t ∧ s.index = index :=
  (Diff.get?_keyed_iff fits.nodup_stored (address, index) s).trans (and_congr_right fun hs => slot_eq_iff hs index)

theorem idAt?_of_mem (fits : Suits address keys t) {s : AccountKey} (hs : s ∈ storedKeys address t) :
    idAt? (storedKeys address t) s.index = some s.id := by
  obtain ⟨id, found⟩ := exists_idAt? hs
  obtain ⟨s', hs', same, rfl⟩ := stored_of_idAt? found
  rw [found, fits.eq_of_index hs' hs same]

end Suits

/-! ### The operations -/

section
variable (keys observedAt) (hA : Address.prefixed address = address)
include hA

theorem slots_reported :
    (reportedKeys address keys observedAt).map AccountKey.slot = keys.map fun k => (address, k.index) := by
  rw [reportedKeys, List.map_map]
  exact List.map_congr_left fun k _ => slot_ofChain hA k observedAt

theorem nodup_reported (indexes : (keys.map (·.index)).Nodup) :
    ((reportedKeys address keys observedAt).map AccountKey.slot).Nodup := by
  have pairs := indexes.map (f := fun index => (address, index)) fun a b h => congrArg Prod.snd h
  rw [slots_reported keys observedAt hA]
  simpa [List.map_map, Function.comp_def] using pairs

variable (fits : Suits address keys t)
include fits

theorem mem_create (a : AccountKey) :
    a ∈ (delta address keys t observedAt).create ↔
      ∃ k ∈ keys, a = .ofChain address k observedAt ∧ ∀ s ∈ storedKeys address t, s.index ≠ k.index := by
  have nodup := nodup_reported keys observedAt hA fits.indexes
  have absent (k : Chain.AccountKey) :
      (AccountKey.ofChain address k observedAt).slot ∉ (storedKeys address t).map AccountKey.slot ↔
        ∀ s ∈ storedKeys address t, s.index ≠ k.index := by
    rw [slot_ofChain hA, List.mem_map, not_exists]
    exact forall_congr' fun s => not_and.trans (forall_congr' fun hs => not_congr (slot_eq_iff hs k.index))
  refine (Diff.mem_reconcile_create fits.nodup_stored nodup a).trans ?_
  rw [reportedKeys, List.mem_map]
  constructor
  · rintro ⟨⟨k, hk, rfl⟩, out⟩
    exact ⟨k, hk, rfl, (absent k).mp out⟩
  · rintro ⟨k, hk, rfl, out⟩
    exact ⟨⟨k, hk, rfl⟩, (absent k).mpr out⟩

theorem mem_delete (s : AccountKey) :
    s ∈ (delta address keys t observedAt).delete ↔
      s ∈ storedKeys address t ∧ s.revoked = false ∧ ∀ k ∈ keys, k.index ≠ s.index := by
  have nodup := nodup_reported keys observedAt hA fits.indexes
  refine List.mem_filter.trans ((and_congr_left' (Diff.mem_reconcile_delete fits.nodup_stored nodup s)).trans ?_)
  rw [slots_reported keys observedAt hA, and_assoc, Bool.not_eq_true']
  refine and_congr_right fun hs => and_comm.trans (and_congr_right fun _ => ?_)
  rw [List.mem_map, not_exists]
  refine forall_congr' fun k => not_and.trans (forall_congr' fun _ => not_congr ?_)
  exact eq_comm.trans ((slot_eq_iff hs k.index).trans eq_comm)

end

/-! ### The edits of one reported key -/

/-- The edits that a reported key leads to where a key is stored in its place. -/
def rotation (address : String) (t : Table String AccountKey) (observedAt : Timestamp) (k : Chain.AccountKey) :
    List (String × Option AccountKey) :=
  (Diff.update? AccountKey.slot AccountKey.merge
    (Table.ofList ((storedKeys address t).map fun k => (k.slot, k))) (.ofChain address k observedAt)).toList.flatMap
    (moves (storedKeys address t))

section
variable (hA : Address.prefixed address = address) (fits : Suits address keys t)
include hA fits

theorem update?_eq (k : Chain.AccountKey) (u : AccountKey) :
    Diff.update? AccountKey.slot AccountKey.merge (Table.ofList ((storedKeys address t).map fun k => (k.slot, k)))
        (.ofChain address k observedAt) = some u ↔
      ∃ s ∈ storedKeys address t, s.index = k.index ∧ merged address k observedAt s ≠ s ∧
        u = merged address k observedAt s := by
  rw [Diff.update?, slot_ofChain hA, Option.bind_eq_some_iff]
  constructor
  · rintro ⟨s, found, h⟩
    obtain ⟨hs, same⟩ := (fits.get?_slot k.index s).mp found
    split at h
    · cases h
    · next differs =>
      refine ⟨s, hs, same, fun eq => differs ?_, (Option.some.inj h).symm⟩
      exact beq_iff_eq.mpr eq
  · rintro ⟨s, hs, same, differs, rfl⟩
    refine ⟨s, (fits.get?_slot k.index s).mpr ⟨hs, same⟩, ?_⟩
    exact if_neg fun h => differs (beq_iff_eq.mp h)

/-- A key that is stored in the place of a reported one, and is another one, is rotated: its id is
unbound if it is not the new one, and then the new one is bound. -/
theorem rotation_of_stored {k : Chain.AccountKey} {s : AccountKey} (hs : s ∈ storedKeys address t)
    (same : s.index = k.index) (differs : merged address k observedAt s ≠ s) :
    rotation address t observedAt k =
      (if s.id = keyId address k.publicKey then [] else [(s.id, none)]) ++
        [(keyId address k.publicKey, some (merged address k observedAt s))] := by
  have found := (update?_eq hA fits k (merged address k observedAt s)).mpr ⟨s, hs, same, differs, rfl⟩
  have place := fits.idAt?_of_mem hs
  rw [same] at place
  rw [rotation, found, Option.toList_some, List.flatMap_singleton, moves]
  rw [show (merged address k observedAt s).index = k.index from rfl, place,
    show (merged address k observedAt s).id = keyId address k.publicKey from rfl]
  dsimp only
  split <;> rfl

theorem rotation_of_kept {k : Chain.AccountKey}
    (kept : ∀ s ∈ storedKeys address t, s.index = k.index → merged address k observedAt s = s) :
    rotation address t observedAt k = [] := by
  rw [rotation]
  cases h : Diff.update? AccountKey.slot AccountKey.merge
      (Table.ofList ((storedKeys address t).map fun k => (k.slot, k))) (.ofChain address k observedAt) with
  | none => rfl
  | some u =>
    obtain ⟨s, hs, same, differs, -⟩ := (update?_eq hA fits k u).mp h
    exact absurd (kept s hs same) differs

/-- A rotation binds the id of its key, and unbinds the id that was stored in its place. -/
theorem mem_rotation {k : Chain.AccountKey} {id : String} {v : Option AccountKey}
    (h : (id, v) ∈ rotation address t observedAt k) :
    ∃ s ∈ storedKeys address t, s.index = k.index ∧
      (s.publicKey ≠ k.publicKey ∧ id = s.id ∧ v = none ∨
        id = keyId address k.publicKey ∧ v = some (merged address k observedAt s)) := by
  by_cases kept : ∀ s ∈ storedKeys address t, s.index = k.index → merged address k observedAt s = s
  · rw [rotation_of_kept hA fits kept] at h
    cases h
  · simp only [not_forall] at kept
    obtain ⟨s, hs, same, differs⟩ := kept
    refine ⟨s, hs, same, ?_⟩
    rw [rotation_of_stored hA fits hs same differs, List.mem_append] at h
    rcases h with h | h
    · split at h
      · cases h
      · next other =>
        obtain ⟨rfl, rfl⟩ := Prod.mk.inj (List.mem_singleton.mp h)
        refine .inl ⟨fun publicKey => other ?_, rfl, rfl⟩
        rw [fits.id_of_mem hs, publicKey]
    · obtain ⟨rfl, rfl⟩ := Prod.mk.inj (List.mem_singleton.mp h)
      exact .inr ⟨rfl, rfl⟩

/-- The edits of a synchronisation, key by key. -/
theorem log_eq (observedAt : Timestamp) :
    log (storedKeys address t) (delta address keys t observedAt) =
      writes (delta address keys t observedAt).create ++ keys.flatMap (rotation address t observedAt) ++
        erasures (delta address keys t observedAt).delete := by
  have updates : (delta address keys t observedAt).update.flatMap
      (moves (storedKeys address t)) = keys.flatMap (rotation address t observedAt) := by
    show (Diff.collect _ _ _ _).update.flatMap _ = _
    rw [Diff.collect_update (nodup_reported keys observedAt hA fits.indexes), List.filterMap_eq_flatMap_toList,
      List.flatMap_assoc, reportedKeys, List.flatMap_map]
    rfl
  rw [log, updates]

/-! ### The updates -/

/-- An update writes a reported key over the one that is stored in its place and differs from it. -/
theorem mem_update (observedAt : Timestamp) {u : AccountKey}
    (hu : u ∈ (delta address keys t observedAt).update) :
    ∃ k ∈ keys, ∃ s ∈ storedKeys address t, s.index = k.index ∧ merged address k observedAt s ≠ s ∧
      u = merged address k observedAt s := by
  change u ∈ (Diff.collect _ _ _ _).update at hu
  rw [Diff.collect_update (nodup_reported keys observedAt hA fits.indexes), List.mem_filterMap] at hu
  obtain ⟨_, ha, found⟩ := hu
  obtain ⟨k, hk, rfl⟩ := List.mem_map.mp ha
  exact ⟨k, hk, (update?_eq hA fits k u).mp found⟩

/-! ### The run -/

omit hA in
/-- An update succeeds as long as a record that it finds in place was not erased. -/
theorem replace_edits {w : World} (h : w.Answers (Call.On .key)) {u s : AccountKey} (hs : s ∈ storedKeys address t)
    (same : s.index = u.index) (bound : s.id = u.id → w.store.keys.contains u.id = true) :
    ∃ w', (replace (storedKeys address t) u).run.run w = (.ok (), w') ∧
      w.Edited (moves (storedKeys address t) u) w' := by
  have place := fits.idAt?_of_mem hs
  rw [same] at place
  unfold replace moves
  rw [place]
  dsimp only
  by_cases kept : s.id = u.id
  · rw [if_pos kept, if_pos kept]
    obtain ⟨old, hold⟩ := Option.isSome_iff_exists.mp (bound kept)
    exact Act.update_edits h hold _
  · rw [if_neg kept, if_neg kept]
    obtain ⟨v, hv, first⟩ := Act.delete_edits AccountKey h s.id
    obtain ⟨w', hw', second⟩ := Act.upsert_edits (first.within.answers h) u
    exact ⟨w', by rw [Attempt.run_bind_of_ok hv, hw'], first.trans second⟩

omit hA in
/-- No update before it erases the record that another update finds in its place. -/
theorem contains_of_update {before after : List AccountKey} {u s : AccountKey}
    (split : (delta address keys t observedAt).update = before ++ u :: after)
    (hs : s ∈ storedKeys address t) (same : s.index = u.index) (kept : s.id = u.id) (created : List AccountKey) :
    ((t.edit (writes created)).edit
      (before.flatMap (moves (storedKeys address t)))).contains u.id = true := by
  have stored : t.contains u.id = true := by
    rw [← kept, Table.contains, fits.get?_of_mem hs]
    rfl
  refine Table.contains_edit (Table.contains_edit stored ?_) ?_
  · intro mem
    obtain ⟨k, -, -, h⟩ := mem_writes.mp mem
    cases h
  · intro mem
    obtain ⟨v, hv, h⟩ := List.mem_flatMap.mp mem
    obtain ⟨s', hs', same'⟩ := stored_of_update (split ▸ List.mem_append_left _ hv)
    have place := fits.idAt?_of_mem hs'
    rw [same'] at place
    rw [moves, place] at h
    have ids : u.id = s'.id := by
      dsimp only at h
      split at h <;> simp_all
    -- The erased record would be the one in place, so both updates would be about one place.
    have one : s' = s := by
      have found := fits.get?_of_mem hs'
      rw [← ids, ← kept, fits.get?_of_mem hs] at found
      exact (Option.some.inj found).symm
    have indexes : (delta address keys t observedAt).update.Pairwise fun u v => u.index ≠ v.index := update_indexes
    rw [split, List.pairwise_append] at indexes
    exact indexes.2.2 v hv u List.mem_cons_self (by rw [← same', one, same])

omit hA in
/-- Where no call to an index fails, every operation of a synchronisation succeeds. -/
theorem sync_edits {w : World} (h : w.Answers (Call.On .key)) (ht : w.store.keys = t)
    {account : Chain.Account} (hkeys : account.keys = keys) (observedAt : Timestamp) :
    ∃ report w', (sync address account observedAt).run.run w = (.ok report, w') ∧ report.failed = 0 ∧
      w.Edited (log (storedKeys address t) (delta address keys t observedAt)) w' := by
  have found : (keysOf address).run.run w = (.ok (storedKeys address t), w.counted) := by
    rw [← ht]
    exact Attempt.run_bind_of_ok (Act.findAll_of_answers h rfl)
  have h₀ := (World.Within.counted [] w).answers h
  generalize hd : delta address keys t observedAt = d
  have replaced : ∀ before u after, d.update = before ++ u :: after →
      ∀ v, w.counted.Edited (writes d.create ++ before.flatMap (moves (storedKeys address t))) v →
      ∃ v', (replace (storedKeys address t) u).run.run v = (.ok (), v') ∧
        v.Edited (moves (storedKeys address t) u) v' := by
    intro before u after split v hv
    have hu : u ∈ d.update := split ▸ List.mem_append_right _ List.mem_cons_self
    obtain ⟨s, hs, same⟩ := stored_of_update (hd ▸ hu)
    refine replace_edits fits (hv.within.answers h₀) hs same fun kept => ?_
    have table : v.store.keys = w.store.keys.edit _ := hv.table
    rw [table, ht, Table.edit_append]
    exact contains_of_update fits (hd ▸ split) hs same kept d.create
  obtain ⟨w', applied, edited⟩ := Diff.apply_edits
    (fun k _ v hv => Act.upsert_edits (hv.answers h₀) k) replaced
    (fun k _ v hv => Act.delete_edits AccountKey (hv.answers h₀) k.id)
  refine ⟨⟨d.create.length, d.update.length, d.delete.length, 0⟩, w', ?_, rfl, (World.Edited.counted w).trans edited⟩
  have reads : (sync address account observedAt).run.run w =
      (liftM (Diff.apply Act.upsert (replace (storedKeys address t)) (fun k => Act.delete AccountKey k.id) d) :
        Act Diff.Report).run.run w.counted := by
    unfold sync
    rw [Attempt.run_bind_of_ok found, hkeys, ← hd]
    rfl
  rw [reads, Attempt.run_lift, applied]

end

end

end ChainIndex.KeySync
