import ChainIndex.Proofs.KeySync
import ChainIndex.Proofs.Node

/-!
# When the stored keys become the reported ones

A synchronisation makes the stored keys of an account the reported ones unless one of its edits
unbinds an id that another one has bound. That happens to a reported key whose public key is stored at
another place, and `KeySync.Compatible` says when it does not.
-/

set_option autoImplicit false

namespace ChainIndex.KeySync

open Indexed (AccountKey keyId)

/-- A record shows a key of the account as the chain reports it. -/
structure Shows (address : String) (k : Chain.AccountKey) (r : AccountKey) : Prop where
  id : r.id = keyId address k.publicKey
  address : r.address = address
  index : r.index = k.index
  publicKey : r.publicKey = k.publicKey
  signAlgo : r.signAlgo = Indexed.SignatureAlgorithm.ofCode? k.signAlgo
  hashAlgo : r.hashAlgo = Indexed.HashAlgorithm.ofCode? k.hashAlgo
  weight : r.weight = k.weight
  sequenceNumber : r.sequenceNumber = k.sequenceNumber
  revoked : r.revoked = k.revoked

/-- The index `t'` that came out of `t` shows every reported key under its id, and every other key of
the account in it is a revoked one that was there before. -/
structure Converged (address : String) (keys : List Chain.AccountKey) (t t' : Table String AccountKey) : Prop where
  shown : ∀ k ∈ keys, ∃ r, t'.get? (keyId address k.publicKey) = some r ∧ Shows address k r
  others : ∀ id r, t'.get? id = some r → r.address = address → (∀ k ∈ keys, id ≠ keyId address k.publicKey) →
    r.revoked = true ∧ t.get? id = some r

/-- A reported key whose public key is stored at another place comes through: the key there is a
revoked one whose place is not reported, or its place is reported earlier, and the reported key finds
a stored one in its own place, so that it is written later. -/
def Compatible (address : String) (keys : List Chain.AccountKey) (t : Table String AccountKey) : Prop :=
  ∀ before k after, keys = before ++ k :: after →
    ∀ s ∈ storedKeys address t, s.publicKey = k.publicKey → s.index ≠ k.index →
      (s.revoked = true ∧ ∀ k' ∈ keys, k'.index ≠ s.index) ∨
        (∃ k' ∈ before, k'.index = s.index) ∧ ∃ s' ∈ storedKeys address t, s'.index = k.index

/-- A reported key passes: this is what `Compatible` says of it and of the keys that are reported before it. -/
def Passes (address : String) (keys : List Chain.AccountKey) (t : Table String AccountKey)
    (before : List Chain.AccountKey) (k : Chain.AccountKey) : Prop :=
  ∀ s ∈ storedKeys address t, s.publicKey = k.publicKey → s.index ≠ k.index →
    (s.revoked = true ∧ ∀ k' ∈ keys, k'.index ≠ s.index) ∨
      (∃ k' ∈ before, k'.index = s.index) ∧ ∃ s' ∈ storedKeys address t, s'.index = k.index

/-- The record that a reported key leads to: it is merged with the one that is stored in its place, if there
is one. -/
inductive Yields (address : String) (t : Table String AccountKey) (observedAt : Timestamp) (k : Chain.AccountKey) :
    AccountKey → Prop
  | merged {s : AccountKey} (stored : s ∈ storedKeys address t) (place : s.index = k.index) :
      Yields address t observedAt k (merged address k observedAt s)
  | new (free : ∀ s ∈ storedKeys address t, s.index ≠ k.index) :
      Yields address t observedAt k (.ofChain address k observedAt)

section
variable {address : String} {keys : List Chain.AccountKey} {t : Table String AccountKey}
  {observedAt : Timestamp}

/-- A concrete index is checked entry by entry. -/
theorem fits_of_entries
    (canonical : ∀ e ∈ t.entries, e.2.id = e.1 ∧ e.1 = keyId e.2.address e.2.publicKey)
    (slots : ∀ e ∈ t.entries, ∀ e' ∈ t.entries, e.2.address = address → e'.2.address = address →
      e.2.index = e'.2.index → e.1 = e'.1)
    (indexes : (keys.map (·.index)).Nodup) (publicKeys : (keys.map (·.publicKey)).Nodup) :
    Fits address keys t where
  canonical id k h := canonical (id, k) ((t.mem_entries_iff id k).mpr h)
  slots id id' k k' h h' := slots (id, k) ((t.mem_entries_iff id k).mpr h) (id', k') ((t.mem_entries_iff id' k').mpr h')
  indexes := indexes
  publicKeys := publicKeys

theorem shows_ofChain (hA : Address.prefixed address = address) (k : Chain.AccountKey) :
    Shows address k (.ofChain address k observedAt) :=
  ⟨rfl, hA, rfl, rfl, rfl, rfl, rfl, rfl, rfl⟩

theorem shows_merged (hA : Address.prefixed address = address) (k : Chain.AccountKey) (s : AccountKey) :
    Shows address k (merged address k observedAt s) :=
  ⟨rfl, hA, rfl, rfl, rfl, rfl, rfl, rfl, rfl⟩

theorem Yields.shows (hA : Address.prefixed address = address) {k : Chain.AccountKey} {r : AccountKey}
    (yields : Yields address t observedAt k r) : Shows address k r := by
  cases yields with
  | merged => exact shows_merged hA k _
  | new => exact shows_ofChain hA k

def edits (address : String) (keys : List Chain.AccountKey) (t : Table String AccountKey)
    (observedAt : Timestamp) : List (String × Option AccountKey) :=
  log (storedKeys address t) (delta address keys t observedAt)

variable (hA : Address.prefixed address = address) (fits : Suits address keys t)
include hA fits

theorem mem_edits_bound {id : String} {r : AccountKey} (h : (id, some r) ∈ edits address keys t observedAt) :
    ∃ k ∈ keys, id = keyId address k.publicKey ∧ Yields address t observedAt k r := by
  rw [edits, log_eq hA fits, List.mem_append, List.mem_append] at h
  rcases h with (h | h) | h
  · obtain ⟨a, ha, rfl, same⟩ := mem_writes.mp h
    obtain rfl := Option.some.inj same
    obtain ⟨k, hk, rfl, free⟩ := (mem_create keys observedAt hA fits r).mp ha
    exact ⟨k, hk, rfl, .new free⟩
  · obtain ⟨k, hk, h⟩ := List.mem_flatMap.mp h
    obtain ⟨s, hs, place, ⟨-, -, none⟩ | ⟨rfl, same⟩⟩ := mem_rotation hA fits h
    · cases none
    · obtain rfl := Option.some.inj same
      exact ⟨k, hk, rfl, .merged hs place⟩
  · obtain ⟨a, -, -, none⟩ := mem_erasures.mp h
    cases none

/-- A stored key is unbound when another key is reported in its place. -/
theorem mem_rotation_erased {k : Chain.AccountKey} {s : AccountKey} (hs : s ∈ storedKeys address t)
    (same : s.index = k.index) (other : s.publicKey ≠ k.publicKey) :
    (s.id, none) ∈ rotation address t observedAt k := by
  have differs : merged address k observedAt s ≠ s := fun eq => other (congrArg AccountKey.publicKey eq).symm
  have ids : s.id ≠ keyId address k.publicKey := by
    rw [fits.id_of_mem hs]
    exact fun eq => other (keyId_inj eq)
  rw [rotation_of_stored hA fits hs same differs, if_neg ids]
  exact List.mem_append_left _ (List.mem_singleton_self _)

theorem mem_removed {id : String} {v : Option AccountKey} :
    (id, v) ∈ erasures (delta address keys t observedAt).delete ↔
      v = none ∧ ∃ s ∈ storedKeys address t, s.id = id ∧ s.revoked = false ∧ ∀ k ∈ keys, k.index ≠ s.index := by
  rw [mem_erasures]
  constructor
  · rintro ⟨s, hs, rfl, rfl⟩
    obtain ⟨mem, kept, out⟩ := (mem_delete keys observedAt hA fits s).mp hs
    exact ⟨rfl, s, mem, rfl, kept, out⟩
  · rintro ⟨rfl, s, hs, rfl, kept, out⟩
    exact ⟨s, (mem_delete keys observedAt hA fits s).mpr ⟨hs, kept, out⟩, rfl, rfl⟩

/-- Every key of the account that is left and not reported is a revoked one that was stored before. -/
theorem others_of_edits {id : String} {r : AccountKey} (h : (t.edit (edits address keys t observedAt)).get? id = some r)
    (own : r.address = address) (other : ∀ k ∈ keys, id ≠ keyId address k.publicKey) :
    r.revoked = true ∧ t.get? id = some r := by
  have unbound : ∀ u, (id, some u) ∉ edits address keys t observedAt := by
    intro u hu
    obtain ⟨k, hk, same, -⟩ := mem_edits_bound hA fits hu
    exact other k hk same
  have kept : t.get? id = some r := by
    rcases Table.get?_edit_cases t id (edits address keys t observedAt) with same | written
    · exact same ▸ h
    · rw [h] at written
      exact absurd written (unbound r)
  refine ⟨?_, kept⟩
  have hs : r ∈ storedKeys address t := mem_storedKeys.mpr ⟨⟨id, kept⟩, own⟩
  have hid : r.id = id := fits.own id r kept
  -- Were it not revoked, an edit would have unbound it.
  by_contra live
  have erased : (id, none) ∈ edits address keys t observedAt := by
    rw [edits, log_eq hA fits]
    by_cases placed : ∃ k ∈ keys, k.index = r.index
    · obtain ⟨k, hk, same⟩ := placed
      have differs : r.publicKey ≠ k.publicKey := by
        intro eq
        exact other k hk (by rw [← hid, fits.id_of_mem hs, eq])
      refine List.mem_append_left _ (List.mem_append_right _ (List.mem_flatMap.mpr ⟨k, hk, ?_⟩))
      exact hid ▸ mem_rotation_erased hA fits hs same.symm differs
    · refine List.mem_append_right _ ((mem_removed hA fits).mpr ⟨rfl, r, hs, hid, by simpa using live, ?_⟩)
      exact fun k hk same => placed ⟨k, hk, same⟩
  have gone := Table.get?_edit_of_forall (t := t) erased fun u hu => by
    cases u with
    | none => rfl
    | some u => exact absurd hu (unbound u)
  rw [h] at gone
  cases gone

/-! ### One reported key -/

section
variable {before after : List Chain.AccountKey} {k : Chain.AccountKey} (split : keys = before ++ k :: after)
include split

/-- The edits from the first reported keys on, and the ones behind a reported key. -/
theorem edits_split : edits address keys t observedAt =
    (writes (delta address keys t observedAt).create ++
        before.flatMap (rotation address t observedAt)) ++
      (rotation address t observedAt k ++
        (after.flatMap (rotation address t observedAt) ++
          erasures (delta address keys t observedAt).delete)) := by
  have updates : keys.flatMap (rotation address t observedAt) =
      before.flatMap (rotation address t observedAt) ++
        (rotation address t observedAt k ++ after.flatMap (rotation address t observedAt)) := by
    rw [split, List.flatMap_append, List.flatMap_cons]
  rw [edits, log_eq hA fits, updates]
  simp only [List.append_assoc]

omit hA in
theorem distinct_of_split {k' : Chain.AccountKey} (hk' : k' ∈ before ∨ k' ∈ after) :
    k'.index ≠ k.index ∧ k'.publicKey ≠ k.publicKey := by
  have indexes := fits.indexes
  have publicKeys := fits.publicKeys
  rw [split, List.map_append, List.map_cons, List.nodup_append] at indexes publicKeys
  obtain ⟨-, tail, apart⟩ := indexes
  obtain ⟨-, tail', apart'⟩ := publicKeys
  rcases hk' with hk' | hk'
  · exact ⟨apart _ (List.mem_map_of_mem hk') _ List.mem_cons_self,
      apart' _ (List.mem_map_of_mem hk') _ List.mem_cons_self⟩
  · refine ⟨fun same => ?_, fun same => ?_⟩
    · exact (List.nodup_cons.mp tail).1 (same ▸ List.mem_map_of_mem hk')
    · exact (List.nodup_cons.mp tail').1 (same ▸ List.mem_map_of_mem hk')

/-- Rotations of other keys touch the id of a reported key only to unbind it. -/
theorem mem_rotation_other {k' : Chain.AccountKey} (hk' : k' ∈ before ∨ k' ∈ after) {v : Option AccountKey}
    (h : (keyId address k.publicKey, v) ∈ rotation address t observedAt k') :
    v = none ∧ ∃ s ∈ storedKeys address t, s.publicKey = k.publicKey ∧ s.index = k'.index ∧ s.index ≠ k.index := by
  obtain ⟨s, hs, same, ⟨-, ids, none⟩ | ⟨ids, -⟩⟩ := mem_rotation hA fits h
  · rw [fits.id_of_mem hs] at ids
    exact ⟨none, s, hs, (keyId_inj ids).symm, same, same ▸ (distinct_of_split fits split hk').1⟩
  · exact absurd (keyId_inj ids).symm (distinct_of_split fits split hk').2

theorem mem_created {v : Option AccountKey}
    (h : (keyId address k.publicKey, v) ∈ writes (delta address keys t observedAt).create) :
    v = some (.ofChain address k observedAt) ∧ ∀ s ∈ storedKeys address t, s.index ≠ k.index := by
  obtain ⟨a, ha, ids, rfl⟩ := mem_writes.mp h
  obtain ⟨k', hk', rfl, new⟩ := (mem_create keys observedAt hA fits a).mp ha
  have same : k' = k := by
    by_contra ne
    rw [split, List.mem_append, List.mem_cons] at hk'
    have other : k' ∈ before ∨ k' ∈ after := by
      rcases hk' with h | h | h
      · exact .inl h
      · exact absurd h ne
      · exact .inr h
    exact (distinct_of_split fits split other).2 (keyId_inj ids).symm
  subst same
  exact ⟨rfl, new⟩

/-- Nothing behind the turn of a key that passes is about its id. -/
theorem untouched_behind (observedAt : Timestamp) (passes : Passes address keys t before k) (v : Option AccountKey) :
    (keyId address k.publicKey, v) ∉ after.flatMap (rotation address t observedAt) ++
      erasures (delta address keys t observedAt).delete := by
  intro h
  rcases List.mem_append.mp h with h | h
  · obtain ⟨k', hk', h⟩ := List.mem_flatMap.mp h
    obtain ⟨-, s, hs, publicKey, same, ne⟩ := mem_rotation_other hA fits split (.inr hk') h
    rcases passes s hs publicKey ne with ⟨-, out⟩ | ⟨⟨k'', hk'', same'⟩, -⟩
    · exact out k' (by simp [split, hk']) same.symm
    · -- The place would be reported before and behind the key.
      have indexes := fits.indexes
      rw [split, List.map_append, List.map_cons, List.nodup_append] at indexes
      exact indexes.2.2 _ (List.mem_map_of_mem hk'') _ (List.mem_cons_of_mem _ (List.mem_map_of_mem hk'))
        (same'.trans same)
  · obtain ⟨-, s, hs, ids, live, out⟩ := (mem_removed hA fits).mp h
    rw [fits.id_of_mem hs] at ids
    have ne : s.index ≠ k.index := fun same => out k (by simp [split]) same.symm
    rcases passes s hs (keyId_inj ids) ne with ⟨revoked, -⟩ | ⟨⟨k', hk', same⟩, -⟩
    · rw [live] at revoked
      cases revoked
    · exact out k' (by simp [split, hk']) same

/-- The record of a key that passes is the one that the key leads to. -/
theorem yielded_of_passes (passes : Passes address keys t before k) :
    ∃ r, (t.edit (edits address keys t observedAt)).get? (keyId address k.publicKey) = some r ∧
      Yields address t observedAt k r := by
  have behind := untouched_behind hA fits split observedAt passes
  rw [edits_split hA fits split, Table.edit_append]
  by_cases placed : ∃ s ∈ storedKeys address t, s.index = k.index
  · obtain ⟨s, hs, same⟩ := placed
    by_cases kept : merged address k observedAt s = s
    · -- The stored key is the reported one already, and nothing is about its id.
      have ids : s.id = keyId address k.publicKey := congrArg AccountKey.id kept.symm
      have quiet : rotation address t observedAt k = [] := rotation_of_kept hA fits fun s' hs' same' => by
        rw [fits.eq_of_index hs' hs (same'.trans same.symm), kept]
      refine ⟨s, ?_, kept ▸ .merged hs same⟩
      rw [quiet, List.nil_append, Table.get?_edit_of_not_mem behind, Table.get?_edit_of_not_mem, ← ids,
        fits.get?_of_mem hs]
      intro v h
      rcases List.mem_append.mp h with h | h
      · exact (mem_created hA fits split h).2 s hs same
      · obtain ⟨k', hk', h⟩ := List.mem_flatMap.mp h
        obtain ⟨-, s', hs', publicKey, -, ne⟩ := mem_rotation_other hA fits split (.inl hk') h
        rw [fits.id_of_mem hs] at ids
        rw [fits.eq_of_publicKey hs' hs (publicKey.trans (keyId_inj ids).symm)] at ne
        exact ne same
    · -- The last edit about the id is the one that writes the key.
      refine ⟨merged address k observedAt s, ?_, .merged hs same⟩
      rw [rotation_of_stored hA fits hs same kept, List.append_assoc]
      rw [Table.edit_append, List.singleton_append]
      exact Table.get?_edit_last [] behind
  · -- A new key is created, and then nothing is about its id.
    have absent : ∀ s ∈ storedKeys address t, s.index ≠ k.index := fun s hs same => placed ⟨s, hs, same⟩
    have quiet : rotation address t observedAt k = [] :=
      rotation_of_kept hA fits fun s hs same => absurd same (absent s hs)
    refine ⟨.ofChain address k observedAt, ?_, .new absent⟩
    rw [quiet, List.nil_append, Table.get?_edit_of_not_mem behind, Table.edit_append, Table.get?_edit_of_not_mem]
    · refine Table.get?_edit_of_forall (mem_writes.mpr ⟨.ofChain address k observedAt, ?_, rfl, rfl⟩)
        fun u hu => (mem_created hA fits split hu).1
      exact (mem_create keys observedAt hA fits _).mpr ⟨k, by simp [split], rfl, absent⟩
    · intro v h
      obtain ⟨k', hk', h⟩ := List.mem_flatMap.mp h
      obtain ⟨-, s, hs, publicKey, same, ne⟩ := mem_rotation_other hA fits split (.inl hk') h
      rcases passes s hs publicKey ne with ⟨-, out⟩ | ⟨-, s', hs', same'⟩
      · exact out k' (by simp [split, hk']) same.symm
      · exact absent s' hs' same'

/-- What is about the id of a reported key behind its turn unbinds it. -/
theorem erased_behind {v : Option AccountKey}
    (h : (keyId address k.publicKey, v) ∈ after.flatMap (rotation address t observedAt) ++
      erasures (delta address keys t observedAt).delete) : v = none := by
  rcases List.mem_append.mp h with h | h
  · obtain ⟨k', hk', h⟩ := List.mem_flatMap.mp h
    exact (mem_rotation_other hA fits split (.inr hk') h).1
  · exact ((mem_removed hA fits).mp h).1

/-- A key that does not pass is lost. -/
theorem lost_of_not_passes (stuck : ¬ Passes address keys t before k) :
    (t.edit (edits address keys t observedAt)).get? (keyId address k.publicKey) = none := by
  simp only [Passes, not_forall] at stuck
  obtain ⟨s, hs, publicKey, ne, stuck⟩ := stuck
  obtain ⟨live, late⟩ := not_or.mp stuck
  have ids : s.id = keyId address k.publicKey := by rw [fits.id_of_mem hs, publicKey]
  have erased {k' : Chain.AccountKey} (hk' : k' ∈ before ∨ k' ∈ after) (same : k'.index = s.index) :
      (keyId address k.publicKey, none) ∈ rotation address t observedAt k' := by
    rw [← ids]
    exact mem_rotation_erased hA fits hs same.symm (publicKey ▸ (distinct_of_split fits split hk').2.symm)
  rw [edits_split hA fits split, Table.edit_append]
  by_cases earlier : ∃ k' ∈ before, k'.index = s.index
  · -- The key has no stored one in its place, so it was created before its id is unbound.
    obtain ⟨k', hk', same⟩ := earlier
    have quiet : rotation address t observedAt k = [] := rotation_of_kept hA fits fun s' hs' same' =>
      absurd ⟨⟨k', hk', same⟩, s', hs', same'⟩ late
    rw [quiet, List.nil_append, ← Table.edit_append, List.append_assoc, Table.edit_append]
    refine Table.get?_edit_of_forall
      (List.mem_append_left _ (List.mem_flatMap.mpr ⟨k', hk', erased (.inl hk') same⟩)) fun u hu => ?_
    rcases List.mem_append.mp hu with hu | hu
    · obtain ⟨k'', hk'', hu⟩ := List.mem_flatMap.mp hu
      exact (mem_rotation_other hA fits split (.inl hk'') hu).1
    · exact erased_behind hA fits split hu
  · rw [Table.edit_append]
    refine Table.get?_edit_of_forall ?_ fun u hu => erased_behind hA fits split hu
    by_cases placed : ∃ k' ∈ after, k'.index = s.index
    · obtain ⟨k', hk', same⟩ := placed
      exact List.mem_append_left _ (List.mem_flatMap.mpr ⟨k', hk', erased (.inr hk') same⟩)
    · have out : ∀ k' ∈ keys, k'.index ≠ s.index := by
        intro k' hk' same
        rw [split, List.mem_append, List.mem_cons] at hk'
        rcases hk' with hk' | rfl | hk'
        · exact earlier ⟨k', hk', same⟩
        · exact ne same.symm
        · exact placed ⟨k', hk', same⟩
      refine List.mem_append_right _ ((mem_removed hA fits).mpr ⟨rfl, s, hs, ids, ?_, out⟩)
      by_contra revoked
      exact live ⟨by simpa using revoked, out⟩

end

/-- The edits lead to the reported keys exactly if each of them comes through. -/
theorem converged_iff : Converged address keys t (t.edit (edits address keys t observedAt)) ↔
    Compatible address keys t := by
  constructor
  · intro converged before k after split
    by_contra stuck
    obtain ⟨r, found, -⟩ := converged.shown k (by simp [split])
    rw [lost_of_not_passes hA fits split stuck] at found
    cases found
  · intro compatible
    refine ⟨fun k hk => ?_, fun id r h own other => others_of_edits hA fits h own other⟩
    obtain ⟨before, after, split⟩ := List.append_of_mem hk
    obtain ⟨r, found, yields⟩ := yielded_of_passes hA fits split (compatible before k after split)
    exact ⟨r, found, yields.shows hA⟩

end

end ChainIndex.KeySync

namespace ChainIndex.Account

open KeySync

variable {w : World} {address : String} {account : Chain.Account} {observedAt : Timestamp}

/-- What indexing an account leads to: its record and those of its contracts are written, and its keys
are synchronised. -/
structure Indexes (account : Chain.Account) (observedAt : Timestamp) (w w' : World) : Prop where
  within : w.Within Only.effects w'
  accounts : w'.store.accounts =
    w.store.accounts.edit [((Indexed.Account.ofChain account).id, some (.ofChain account))]
  keys : w'.store.keys =
    w.store.keys.edit (edits (Address.prefixed account.address) account.keys w.store.keys observedAt)
  contracts : w'.store.contracts = w.store.contracts.edit ((contracts account).flatMap fun c => [(c.id, some c)])

/-- Where no call fails an account is indexed, if the index suits it. -/
theorem indexes_of_suits (index : ∀ kind ∈ [Kind.account, .key, .contract], w.Answers (Call.On kind))
    (reach : w.Answers (· = .account address)) (known : w.node.account address = .ok account)
    (suits : Suits (Address.prefixed account.address) account.keys w.store.keys) (observedAt : Timestamp) :
    ∃ w', (Account.index address observedAt).run.run w = (.ok (), w') ∧ Indexes account observedAt w w' := by
  have looked : (look address).run.run w = (.ok account, w.counted) := by
    rw [← known]
    exact BlockData.ask_of_answers (Chain.Node.account address) reach rfl
  have within₀ := World.Within.counted ([] : List Part) w
  obtain ⟨w₁, run₁, edited₁⟩ := Act.upsert_edits (within₀.answers (index .account (by decide)))
    (Indexed.Account.ofChain account)
  have within₁ := (within₀.mono (List.nil_subset _)).trans edited₁.within
  have keys₁ : w₁.store.keys = w.store.keys := within₁.shelf .key (by decide)
  obtain ⟨report, w₂, run₂, all, edited₂⟩ := sync_edits (keys₁ ▸ suits)
    (within₁.answers (index .key (by decide))) rfl rfl observedAt
  have answers₂ := edited₂.within.answers (within₁.answers (index .contract (by decide)))
  obtain ⟨results, w₃, run₃, -, edited₃⟩ := Act.forEach_edits Act.upsert
    (fun c : Indexed.Contract => [(c.id, some c)]) (l := contracts account) fun before c after _ v hv =>
      ⟨(), Act.upsert_edits (hv.within.answers answers₂) c⟩
  have synced := Attempt.run_result (sync (Address.prefixed account.address) account observedAt) w₁
  rw [run₂] at synced
  refine ⟨w₃, ?_, ?_, ?_, ?_, ?_⟩
  · unfold Account.index
    rw [Attempt.run_bind_of_ok looked, Attempt.run_bind_of_ok run₁, Attempt.run_bind_of_ok synced,
      Attempt.run_bind_of_ok (Attempt.run_lift _ _), run₃]
    simp only [all, if_true]
    rfl
  · exact (within₁.mono (by decide)).trans ((edited₂.within.mono (by decide)).trans (edited₃.within.mono (by decide)))
  · have kept₂ : w₂.store.accounts = w₁.store.accounts := edited₂.within.shelf .account (by decide)
    have kept₃ : w₃.store.accounts = w₂.store.accounts := edited₃.within.shelf .account (by decide)
    exact kept₃.trans (kept₂.trans edited₁.table)
  · have kept₃ : w₃.store.keys = w₂.store.keys := edited₃.within.shelf .key (by decide)
    have table : w₂.store.keys = w₁.store.keys.edit _ := edited₂.table
    rw [kept₃, table, keys₁]
    rfl
  · have kept₁ : w₁.store.contracts = w.store.contracts := within₁.shelf .contract (by decide)
    have kept₂ : w₂.store.contracts = w₁.store.contracts := edited₂.within.shelf .contract (by decide)
    have table : w₃.store.contracts = w₂.store.contracts.edit _ := edited₃.table
    rw [table, kept₂, kept₁]

/-- Where no call fails an account is indexed. -/
theorem index_edits (index : ∀ kind ∈ [Kind.account, .key, .contract], w.Answers (Call.On kind))
    (reach : w.Answers (· = .account address)) (known : w.node.account address = .ok account)
    (fits : Fits (Address.prefixed account.address) account.keys w.store.keys) (observedAt : Timestamp) :
    ∃ w', (Account.index address observedAt).run.run w = (.ok (), w') ∧ Indexes account observedAt w w' :=
  indexes_of_suits index reach known fits.suits observedAt

/-- Indexing an account that the chain knows, where no call fails, ends well; its keys then are the
reported ones exactly if every reported key whose public key is stored at another place comes
through. -/
theorem index_converged_iff (index : ∀ kind ∈ [Kind.account, .key, .contract], w.Answers (Call.On kind))
    (reach : w.Answers (· = .account address)) (known : w.node.account address = .ok account)
    (fits : Fits (Address.prefixed account.address) account.keys w.store.keys) (observedAt : Timestamp) :
    ∃ w', (Account.index address observedAt).run.run w = (.ok (), w') ∧
      (Converged (Address.prefixed account.address) account.keys w.store.keys w'.store.keys ↔
        Compatible (Address.prefixed account.address) account.keys w.store.keys) := by
  obtain ⟨w', run, indexes⟩ := index_edits index reach known fits observedAt
  refine ⟨w', run, ?_⟩
  rw [indexes.keys]
  exact converged_iff (Address.prefixed_prefixed _) fits

/-! ### A swap -/

/-- The account `0x01` with live keys at places, given by their public keys. -/
def holding (keys : List (UInt32 × String)) : Chain.Account where
  address := "0x01"
  balance := 0
  code := ""
  keys := keys.map fun k => ⟨k.1, k.2, 0, 0, 1000, 0, false⟩
  contracts := .empty

/-- A world in which the index holds some keys of an account and the chain reports others. -/
def holdingWorld (stored reported : List (UInt32 × String)) : World :=
  .start (Chain.Node.empty.putAccount (holding reported))
    { Store.empty with
      keys := .ofList ((holding stored).keys.map fun k =>
        (Indexed.keyId "0x01" k.publicKey, .ofChain "0x01" k .epoch)) }
    .epoch

/-- The key `aa` moves to the place of `cc`, and `bb` is new in its place. -/
def moved : World := holdingWorld [(0, "aa"), (1, "cc")] [(0, "bb"), (1, "aa")]

/-- The keys `aa` and `bb` change places. -/
def swapped : World := holdingWorld [(0, "aa"), (1, "bb")] [(0, "bb"), (1, "aa")]

theorem compatible_moved : Compatible "0x01" (holding [(0, "bb"), (1, "aa")]).keys moved.store.keys := by
  intro before k after split
  rcases before with _ | ⟨first, _ | ⟨second, rest⟩⟩
  · obtain ⟨rfl, -⟩ := List.cons.inj split
    decide
  · obtain ⟨rfl, rest⟩ := List.cons.inj split
    obtain ⟨rfl, -⟩ := List.cons.inj rest
    decide
  · simp [holding] at split

/-- A key that moves to a later place, which another stored key leaves, comes through. -/
theorem converged_moved :
    Fits "0x01" (holding [(0, "bb"), (1, "aa")]).keys moved.store.keys ∧
      ∃ w', (Account.index "0x01" .epoch).run.run moved = (.ok (), w') ∧
        Converged "0x01" (holding [(0, "bb"), (1, "aa")]).keys moved.store.keys w'.store.keys := by
  have fits : Fits "0x01" (holding [(0, "bb"), (1, "aa")]).keys moved.store.keys :=
    fits_of_entries (by decide) (by decide) (by decide) (by decide)
  have index : ∀ kind ∈ [Kind.account, .key, .contract], moved.Answers (Call.On kind) := fun _ _ _ _ _ _ => rfl
  have reach : moved.Answers (· = .account "0x01") := fun _ _ _ _ => rfl
  have known : moved.node.account "0x01" = .ok (holding [(0, "bb"), (1, "aa")]) := rfl
  obtain ⟨w', run, iff⟩ := index_converged_iff index reach known fits .epoch
  exact ⟨fits, w', run, iff.mpr compatible_moved⟩

/-- Of two keys that change places the one that is reported first is lost. -/
theorem not_converged_swapped :
    Fits "0x01" (holding [(0, "bb"), (1, "aa")]).keys swapped.store.keys ∧
      ∃ w', (Account.index "0x01" .epoch).run.run swapped = (.ok (), w') ∧
        w'.store.keys.get? (Indexed.keyId "0x01" "bb") = none ∧
        ¬ Converged "0x01" (holding [(0, "bb"), (1, "aa")]).keys swapped.store.keys w'.store.keys := by
  have fits : Fits "0x01" (holding [(0, "bb"), (1, "aa")]).keys swapped.store.keys :=
    fits_of_entries (by decide) (by decide) (by decide) (by decide)
  have index : ∀ kind ∈ [Kind.account, .key, .contract], swapped.Answers (Call.On kind) := fun _ _ _ _ _ _ => rfl
  have reach : swapped.Answers (· = .account "0x01") := fun _ _ _ _ => rfl
  have known : swapped.node.account "0x01" = .ok (holding [(0, "bb"), (1, "aa")]) := rfl
  obtain ⟨w', run, indexes⟩ := index_edits index reach known fits .epoch
  have lost : w'.store.keys.get? (Indexed.keyId "0x01" "bb") = none := by
    rw [indexes.keys]
    decide
  refine ⟨fits, w', run, lost, fun converged => ?_⟩
  obtain ⟨r, found, -⟩ := converged.shown ⟨0, "bb", 0, 0, 1000, 0, false⟩ (by decide)
  rw [lost] at found
  cases found

end ChainIndex.Account
