import ChainIndex.Proofs.KeyConvergence
import ChainIndex.Proofs.Separators
import ChainIndex.Proofs.Touch

/-!
# Keys that the index has from the chain

The accounts of a chain do not change while it is indexed, so every stored key shows a key that its
account still has, as of the time at which it was seen first. Over such an index the synchronisation of
an account finds nothing to rotate and nothing to delete: it writes the keys that are missing
(`KeySync.touched_edits`).
-/

set_option autoImplicit false

namespace ChainIndex

open Indexed (AccountKey keyId)

/-! ### Accounts of a chain -/

/-- The addresses of accounts have no dots, and the keys of an account have distinct places and distinct
public keys. -/
structure Chain.Node.Orderly (full : Chain.Node) : Prop where
  keyed : full.Keyed
  dotless : ∀ address a, full.accounts.get? address = some a → '.' ∉ a.address.toList
  indexes : ∀ address a, full.accounts.get? address = some a → (a.keys.map (·.index)).Nodup
  publicKeys : ∀ address a, full.accounts.get? address = some a → (a.keys.map (·.publicKey)).Nodup

namespace Chain.Node.Orderly
variable {full : Chain.Node} {address : String} {a : Chain.Account}

theorem prefixed (h : full.Orderly) (ha : full.accounts.get? address = some a) : Address.prefixed address = address := by
  rw [← h.keyed.accounts address a ha, Address.prefixed_prefixed]

theorem dotless_get? (h : full.Orderly) (ha : full.accounts.get? address = some a) : '.' ∉ address.toList := by
  rw [← h.keyed.accounts address a ha]
  exact dotless_prefixed (h.dotless address a ha)

theorem keyId_inj (h : full.Orderly) {address' : String} {a' : Chain.Account} {x y : String}
    (ha : full.accounts.get? address = some a) (ha' : full.accounts.get? address' = some a')
    (same : keyId address x = keyId address' y) : address = address' ∧ x = y := by
  rw [keyId, keyId, h.prefixed ha, h.prefixed ha'] at same
  exact append_dot_inj (h.dotless_get? ha) (h.dotless_get? ha') same

end Chain.Node.Orderly

/-- The record under an id shows a key of an account of the chain, as of some time. -/
def Reported (full : Chain.Node) (id : String) (k : AccountKey) : Prop :=
  ∃ address a c observedAt, full.accounts.get? address = some a ∧ c ∈ a.keys ∧
    id = keyId address c.publicKey ∧ k = .ofChain address c observedAt

/-- Every stored key shows a key of the chain. -/
def AllReported (full : Chain.Node) (t : Table String AccountKey) : Prop :=
  ∀ id k, t.get? id = some k → Reported full id k

theorem ofChain_prefixed (address : String) (c : Chain.AccountKey) (observedAt : Timestamp) :
    AccountKey.ofChain (Address.prefixed address) c observedAt = .ofChain address c observedAt := by
  simp only [AccountKey.ofChain, keyId, Address.prefixed_prefixed]

theorem reported_ofChain {full : Chain.Node} {address : String} {a : Chain.Account} {c : Chain.AccountKey}
    (known : full.account address = .ok a) (hc : c ∈ a.keys) (observedAt : Timestamp) :
    Reported full (AccountKey.ofChain address c observedAt).id (.ofChain address c observedAt) := by
  rw [← ofChain_prefixed]
  exact ⟨_, a, c, observedAt, Chain.Node.require_eq_ok known, hc, rfl, rfl⟩

/-- A key of the chain has nothing to take over from one that was seen earlier but the time. -/
theorem merge_ofChain (address : String) (c : Chain.AccountKey) (observedAt earlier : Timestamp) :
    (AccountKey.ofChain address c observedAt).merge (.ofChain address c earlier) = .ofChain address c earlier := by
  unfold AccountKey.merge
  split <;> rfl

theorem AllReported.own {full : Chain.Node} {t : Table String AccountKey} (reported : AllReported full t) {id : String}
    {k : AccountKey} (hk : t.get? id = some k) : k.id = id := by
  obtain ⟨address, a, c, observedAt, -, -, rfl, rfl⟩ := reported id k hk
  rfl

/-- Edits that bind ids to keys of the chain keep it so. -/
theorem AllReported.edit {full : Chain.Node} {t : Table String AccountKey} (reported : AllReported full t)
    {log : List (String × Option AccountKey)} (bound : ∀ id k, (id, some k) ∈ log → Reported full id k) :
    AllReported full (t.edit log) := by
  intro id k hk
  rcases t.get?_edit_cases id log with same | written
  · exact reported id k (same ▸ hk)
  · rw [hk] at written
    exact bound id k written

section
variable {full : Chain.Node} (orderly : full.Orderly) {address : String} {a : Chain.Account}
  (ha : full.accounts.get? address = some a) {t : Table String AccountKey} (reported : AllReported full t)
include orderly ha reported

theorem reported_of_get? {c : Chain.AccountKey} (hc : c ∈ a.keys) {k : AccountKey}
    (hk : t.get? (keyId address c.publicKey) = some k) : ∃ observedAt, k = .ofChain address c observedAt := by
  obtain ⟨address', a', c', observedAt, ha', hc', ids, rfl⟩ := reported _ _ hk
  obtain ⟨rfl, same⟩ := orderly.keyId_inj ha ha' ids
  obtain rfl := Option.some.inj (ha.symm.trans ha')
  obtain rfl := List.inj_on_of_nodup_map (orderly.publicKeys address a ha) hc hc' same
  exact ⟨observedAt, rfl⟩

theorem reported_of_stored {s : AccountKey} (hs : s ∈ KeySync.storedKeys address t) :
    ∃ c ∈ a.keys, ∃ observedAt, s = .ofChain address c observedAt := by
  obtain ⟨⟨id, hid⟩, own⟩ := KeySync.mem_storedKeys.mp hs
  obtain ⟨address', a', c, observedAt, ha', hc, -, rfl⟩ := reported id s hid
  have same : address' = address := (orderly.prefixed ha').symm.trans own
  subst same
  obtain rfl := Option.some.inj (ha.symm.trans ha')
  exact ⟨c, hc, observedAt, rfl⟩

theorem AllReported.fits : KeySync.Fits address a.keys t where
  canonical id k hk := by
    refine ⟨reported.own hk, ?_⟩
    obtain ⟨address', a', c, observedAt, ha', -, rfl, rfl⟩ := reported id k hk
    show keyId address' c.publicKey = keyId (Address.prefixed address') c.publicKey
    rw [orderly.prefixed ha']
  slots id id' k k' hk hk' own own' same := by
    have first := reported.own hk
    have second := reported.own hk'
    obtain ⟨c, hc, observedAt, rfl⟩ :=
      reported_of_stored orderly ha reported (KeySync.mem_storedKeys.mpr ⟨⟨id, hk⟩, own⟩)
    obtain ⟨c', hc', observedAt', rfl⟩ :=
      reported_of_stored orderly ha reported (KeySync.mem_storedKeys.mpr ⟨⟨id', hk'⟩, own'⟩)
    obtain rfl := List.inj_on_of_nodup_map (orderly.indexes address a ha) hc hc' same
    exact first.symm.trans second
  indexes := orderly.indexes address a ha
  publicKeys := orderly.publicKeys address a ha

/-! ### Synchronisation -/

namespace KeySync

/-- A stored key has nothing to take over from the chain. -/
theorem merged_of_stored {c : Chain.AccountKey} (hc : c ∈ a.keys) {s : AccountKey} (hs : s ∈ storedKeys address t)
    (same : s.index = c.index) (observedAt : Timestamp) : merged address c observedAt s = s := by
  obtain ⟨c', hc', earlier, rfl⟩ := reported_of_stored orderly ha reported hs
  obtain rfl := List.inj_on_of_nodup_map (orderly.indexes address a ha) hc' hc same
  exact merge_ofChain address c' observedAt earlier

/-- The edits of a synchronisation write the keys whose places are empty. -/
theorem mem_edits_iff {id : String} {v : Option AccountKey} (observedAt : Timestamp) :
    (id, v) ∈ edits address a.keys t observedAt ↔
      ∃ c ∈ a.keys, (∀ s ∈ storedKeys address t, s.index ≠ c.index) ∧ id = keyId address c.publicKey ∧
        v = some (.ofChain address c observedAt) := by
  have hA := orderly.prefixed ha
  have fits := (reported.fits orderly ha).suits
  have quiet : a.keys.flatMap (rotation address t observedAt) = [] := by
    refine List.flatMap_eq_nil_iff.mpr fun c hc => rotation_of_kept hA fits fun s hs same => ?_
    exact merged_of_stored orderly ha reported hc hs same observedAt
  have kept : (id, v) ∉ erasures (delta address a.keys t observedAt).delete := by
    intro h
    obtain ⟨-, s, hs, -, -, out⟩ := (mem_removed hA fits).mp h
    obtain ⟨c, hc, earlier, rfl⟩ := reported_of_stored orderly ha reported hs
    exact out c hc rfl
  rw [edits, log_eq hA fits, quiet, List.append_nil, List.mem_append, or_iff_left kept, mem_writes]
  constructor
  · rintro ⟨k, hk, rfl, rfl⟩
    obtain ⟨c, hc, rfl, out⟩ := (mem_create a.keys observedAt hA fits k).mp hk
    exact ⟨c, hc, out, rfl, rfl⟩
  · rintro ⟨c, hc, out, rfl, rfl⟩
    exact ⟨_, (mem_create a.keys observedAt hA fits _).mpr ⟨c, hc, rfl, out⟩, rfl, rfl⟩

omit orderly ha reported in
/-- What a synchronisation does to the keys: the keys of the account are written where there are none. -/
def touches (address : String) (keys : List Chain.AccountKey) (observedAt : Timestamp) (id : String) : Touch AccountKey :=
  match keys.find? fun c => keyId address c.publicKey == id with
  | some c => .ensure (.ofChain address c observedAt)
  | none => .keep

theorem touched_edits (observedAt : Timestamp) :
    t.Touched (touches address a.keys observedAt) (t.edit (edits address a.keys t observedAt)) := by
  intro id
  unfold touches
  split
  · next c found =>
    have hc := List.mem_of_find?_eq_some found
    have ids := List.find?_some found
    obtain rfl := beq_iff_eq.mp ids
    have only : ∀ v, (keyId address c.publicKey, v) ∈ edits address a.keys t observedAt →
        (∀ s ∈ storedKeys address t, s.index ≠ c.index) ∧ v = some (.ofChain address c observedAt) := by
      intro v h
      obtain ⟨c', hc', out, ids, rfl⟩ := (mem_edits_iff orderly ha reported observedAt).mp h
      obtain rfl := List.inj_on_of_nodup_map (orderly.publicKeys address a ha) hc hc' (keyId_inj ids)
      exact ⟨out, rfl⟩
    cases old : t.get? (keyId address c.publicKey) with
    | some k =>
      -- The key is stored, so its place is not empty.
      obtain ⟨earlier, rfl⟩ := reported_of_get? orderly ha reported hc old
      rw [Table.get?_edit_of_not_mem, old]
      · rfl
      · intro v h
        exact (only v h).1 _ (mem_storedKeys.mpr ⟨⟨_, old⟩, orderly.prefixed ha⟩) rfl
    | none =>
      refine Table.get?_edit_of_forall ?_ fun v h => (only v h).2
      refine (mem_edits_iff orderly ha reported observedAt).mpr ⟨c, hc, fun s hs same => ?_, rfl, rfl⟩
      have stored := (reported.fits orderly ha).suits.get?_of_mem hs
      obtain ⟨c', hc', earlier, rfl⟩ := reported_of_stored orderly ha reported hs
      obtain rfl := List.inj_on_of_nodup_map (orderly.indexes address a ha) hc' hc same
      cases stored.symm.trans old
  · next none =>
    refine Table.get?_edit_of_not_mem fun v h => ?_
    obtain ⟨c, hc, -, rfl, -⟩ := (mem_edits_iff orderly ha reported observedAt).mp h
    exact List.find?_eq_none.mp none c hc (beq_self_eq_true _)

end KeySync

end

end ChainIndex
