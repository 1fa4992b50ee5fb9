import ChainIndex.Proofs.Reports

/-!
# Keys that agree with the chain

An index of keys agrees with the accounts of a chain if a stored key has its place in the account exactly
if it has its public key there. Over such an index no edit of a synchronisation stands in the way of
another one, so a synchronisation does to the record under an id what depends on that record alone
(`KeySync.get?_edits`): a reported key is renewed, and a key that is not reported stays if it is revoked.
-/

set_option autoImplicit false

namespace ChainIndex.KeySync

open Indexed (AccountKey keyId)

/-- Keys stand under their addresses and their public keys, addresses have no dots, no two keys of an
address have one place, and a key either is at its place in the chain, or neither its place nor its public
key is in the account. -/
structure Agrees (node : Chain.Node) (t : Table String AccountKey) : Prop where
  own : ∀ id k, t.get? id = some k → k.id = id
  named : ∀ id k, t.get? id = some k → id = k.address ++ "." ++ k.publicKey
  dotless : ∀ id k, t.get? id = some k → '.' ∉ k.address.toList
  slots : ∀ id id' k k', t.get? id = some k → t.get? id' = some k' → k.address = k'.address →
    k.index = k'.index → id = id'
  places : ∀ id k a, t.get? id = some k → node.accounts.get? k.address = some a →
    (∃ c ∈ a.keys, c.index = k.index ∧ c.publicKey = k.publicKey) ∨
      ∀ c ∈ a.keys, c.index ≠ k.index ∧ c.publicKey ≠ k.publicKey

/-- The record under an id shows a key that its account has in the chain. -/
def ShownBy (node : Chain.Node) (id : String) (k : AccountKey) : Prop :=
  ∃ address a c, node.accounts.get? address = some a ∧ c ∈ a.keys ∧ id = keyId address c.publicKey ∧ Shows address c k

/-- The keys that an index has from a chain agree with it. -/
theorem agrees_of_allReported {full : Chain.Node} (orderly : full.Orderly) {t : Table String AccountKey}
    (reported : AllReported full t) : Agrees full t where
  own id k hk := reported.own hk
  named id k hk := by
    obtain ⟨address, a, c, observedAt, -, -, rfl, rfl⟩ := reported id k hk
    rfl
  dotless id k hk := by
    obtain ⟨address, a, c, observedAt, ha, -, -, rfl⟩ := reported id k hk
    exact dotless_prefixed (orderly.dotless_get? ha)
  slots id id' k k' hk hk' address index := by
    obtain ⟨A, a, c, observedAt, ha, -, -, rfl⟩ := reported id k hk
    have own := orderly.prefixed ha
    exact (reported.fits orderly ha).slots id id' _ k' hk hk' own (address.symm.trans own) index
  places id k a hk ha := by
    obtain ⟨A, b, c, observedAt, hb, hc, -, rfl⟩ := reported id k hk
    have own : full.accounts.get? (Address.prefixed A) = some a := ha
    rw [orderly.prefixed hb, hb] at own
    obtain rfl := Option.some.inj own
    exact .inl ⟨c, hc, rfl, rfl⟩

/-- What a synchronisation makes of the record of a reported key. -/
def renewal (address : String) (c : Chain.AccountKey) (observedAt : Timestamp) (old : Option AccountKey) : AccountKey :=
  old.elim (.ofChain address c observedAt) (merged address c observedAt)

/-- What a synchronisation makes of the record of a public key. -/
def renewed (address : String) (keys : List Chain.AccountKey) (observedAt : Timestamp) (publicKey : String)
    (old : Option AccountKey) : Option AccountKey :=
  match keys.find? fun c => c.publicKey == publicKey with
  | some c => some (renewal address c observedAt old)
  | none => old.filter (·.revoked)

theorem renewal_prefixed (address : String) (c : Chain.AccountKey) (observedAt : Timestamp) (old : Option AccountKey) :
    renewal (Address.prefixed address) c observedAt old = renewal address c observedAt old := by
  unfold renewal merged
  rw [ofChain_prefixed]

theorem shows_renewal {address : String} (hA : Address.prefixed address = address) (c : Chain.AccountKey)
    (observedAt : Timestamp) (old : Option AccountKey) : Shows address c (renewal address c observedAt old) := by
  cases old with
  | none => exact shows_ofChain hA c
  | some s => exact shows_merged hA c s

/-- What a renewed key took over from the old one it takes over again. -/
theorem renewed_renewed (address : String) (keys : List Chain.AccountKey) (observedAt : Timestamp) (publicKey : String)
    (old : Option AccountKey) :
    renewed address keys observedAt publicKey (renewed address keys observedAt publicKey old) =
      renewed address keys observedAt publicKey old := by
  unfold renewed
  split
  · cases old <;> rfl
  · rw [Option.filter_filter]
    simp only [Bool.and_self]

theorem publicKey_of_find? {keys : List Chain.AccountKey} {publicKey : String} {c : Chain.AccountKey}
    (found : (keys.find? fun k => k.publicKey == publicKey) = some c) : c.publicKey = publicKey := by
  have same := List.find?_some found
  exact beq_iff_eq.mp same

theorem find?_publicKey {keys : List Chain.AccountKey} (publicKeys : (keys.map (·.publicKey)).Nodup)
    {c : Chain.AccountKey} (hc : c ∈ keys) : (keys.find? fun k => k.publicKey == c.publicKey) = some c := by
  cases found : keys.find? fun k => k.publicKey == c.publicKey with
  | none => exact absurd (beq_self_eq_true _) (List.find?_eq_none.mp found c hc)
  | some k => rw [List.inj_on_of_nodup_map publicKeys (List.mem_of_find?_eq_some found) hc (publicKey_of_find? found)]

namespace Agrees

section
variable {node : Chain.Node} {t : Table String AccountKey} (orderly : node.Orderly) (agrees : Agrees node t)
include orderly agrees

/-- Edits that bind ids to keys of the chain keep the agreement. -/
theorem edit {log : List (String × Option AccountKey)} (shown : ∀ id k, (id, some k) ∈ log → ShownBy node id k) :
    Agrees node (t.edit log) := by
  have cases {id : String} {k : AccountKey} (hk : (t.edit log).get? id = some k) :
      t.get? id = some k ∨ ShownBy node id k := by
    rcases t.get?_edit_cases id log with same | written
    · exact .inl (same ▸ hk)
    · exact .inr (shown id k (hk ▸ written))
  -- A key that was stored before and a written one at the same place have the same public key.
  have mixed {id id' : String} {k k' : AccountKey} (hk : t.get? id = some k) (hk' : ShownBy node id' k')
      (address : k.address = k'.address) (index : k.index = k'.index) : id = id' := by
    obtain ⟨A, a, c, ha, hc, rfl, shows⟩ := hk'
    rw [shows.address] at address
    rw [shows.index] at index
    rcases agrees.places id k a hk (address ▸ ha) with ⟨c', hc', same, publicKey⟩ | none
    · obtain rfl := List.inj_on_of_nodup_map (orderly.indexes A a ha) hc' hc (same.trans index)
      rw [agrees.named id k hk, ← publicKey, address, keyId, orderly.prefixed ha]
    · exact absurd index.symm (none c hc).1
  constructor
  · intro id k hk
    rcases cases hk with old | ⟨A, a, c, -, -, rfl, shows⟩
    · exact agrees.own id k old
    · exact shows.id
  · intro id k hk
    rcases cases hk with old | ⟨A, a, c, ha, -, rfl, shows⟩
    · exact agrees.named id k old
    · rw [shows.address, shows.publicKey, keyId, orderly.prefixed ha]
  · intro id k hk
    rcases cases hk with old | ⟨A, a, c, ha, -, rfl, shows⟩
    · exact agrees.dotless id k old
    · rw [shows.address]
      exact orderly.dotless_get? ha
  · intro id id' k k' hk hk' address index
    rcases cases hk with old | new <;> rcases cases hk' with old' | new'
    · exact agrees.slots id id' k k' old old' address index
    · exact mixed old new' address index
    · exact (mixed old' new address.symm index.symm).symm
    · obtain ⟨A, a, c, ha, hc, rfl, shows⟩ := new
      obtain ⟨A', a', c', ha', hc', rfl, shows'⟩ := new'
      obtain rfl : A = A' := by rw [← shows.address, address, shows'.address]
      obtain rfl := Option.some.inj (ha.symm.trans ha')
      rw [shows.index, shows'.index] at index
      rw [List.inj_on_of_nodup_map (orderly.indexes A a ha) hc hc' index]
  · intro id k b hk hb
    rcases cases hk with old | ⟨A, a, c, ha, hc, rfl, shows⟩
    · exact agrees.places id k b old hb
    · rw [shows.address] at hb
      obtain rfl := Option.some.inj (ha.symm.trans hb)
      exact .inl ⟨c, hc, shows.index.symm, shows.publicKey.symm⟩

variable {address : String} {a : Chain.Account} (ha : node.accounts.get? address = some a)
include ha

theorem suits : Suits address a.keys t where
  own := agrees.own
  named id k hk own := by rw [agrees.named id k hk, own, keyId, orderly.prefixed ha]
  slots id id' k k' hk hk' own own' := agrees.slots id id' k k' hk hk' (own.trans own'.symm)
  indexes := orderly.indexes address a ha
  publicKeys := orderly.publicKeys address a ha

theorem same_place_iff {s : AccountKey} (hs : s ∈ storedKeys address t) {c : Chain.AccountKey} (hc : c ∈ a.keys) :
    s.index = c.index ↔ s.publicKey = c.publicKey := by
  obtain ⟨⟨id, hid⟩, own⟩ := mem_storedKeys.mp hs
  rcases agrees.places id s a hid (own ▸ ha) with ⟨c', hc', index, publicKey⟩ | none
  · rw [← index, ← publicKey]
    constructor
    · intro same
      rw [List.inj_on_of_nodup_map (orderly.indexes address a ha) hc' hc same]
    · intro same
      rw [List.inj_on_of_nodup_map (orderly.publicKeys address a ha) hc' hc same]
  · exact ⟨fun same => absurd same.symm (none c hc).1, fun same => absurd same.symm (none c hc).2⟩

/-- The record of a public key is the stored key of the account that has it. -/
theorem stored_of_get? {publicKey : String} {s : AccountKey} (hs : t.get? (keyId address publicKey) = some s) :
    s ∈ storedKeys address t ∧ s.publicKey = publicKey := by
  have named := agrees.named _ s hs
  rw [keyId, orderly.prefixed ha] at named
  obtain ⟨own, same⟩ := append_dot_inj (orderly.dotless_get? ha) (agrees.dotless _ s hs) named
  exact ⟨mem_storedKeys.mpr ⟨⟨_, hs⟩, own.symm⟩, same.symm⟩

theorem get?_of_stored {s : AccountKey} (hs : s ∈ storedKeys address t) :
    t.get? (keyId address s.publicKey) = some s := by
  have suits := agrees.suits orderly ha
  rw [← suits.id_of_mem hs]
  exact suits.get?_of_mem hs

/-! ### Synchronisation -/

variable {observedAt : Timestamp} {publicKey : String}

/-- An edit about the record of a public key renews it. -/
theorem renewed_of_mem_edits {v : Option AccountKey}
    (h : (keyId address publicKey, v) ∈ edits address a.keys t observedAt) :
    v = renewed address a.keys observedAt publicKey (t.get? (keyId address publicKey)) := by
  have hA := orderly.prefixed ha
  have suits := agrees.suits orderly ha
  rw [edits, log_eq hA suits, List.mem_append, List.mem_append] at h
  rcases h with (h | h) | h
  · obtain ⟨_, created, ids, rfl⟩ := mem_writes.mp h
    obtain ⟨c, hc, rfl, free⟩ := (mem_create a.keys observedAt hA suits _).mp created
    obtain rfl := KeySync.keyId_inj ids
    have none : t.get? (keyId address c.publicKey) = none := by
      rw [Option.eq_none_iff_forall_not_mem]
      intro s hs
      obtain ⟨stored, same⟩ := agrees.stored_of_get? orderly ha hs
      exact free s stored ((agrees.same_place_iff orderly ha stored hc).mpr same)
    rw [renewed, find?_publicKey suits.publicKeys hc, none]
    rfl
  · obtain ⟨c, hc, h⟩ := List.mem_flatMap.mp h
    obtain ⟨s, hs, index, ⟨other, -⟩ | ⟨ids, rfl⟩⟩ := mem_rotation hA suits h
    · -- A rotation would erase a key that has another public key than the chain at its place.
      exact absurd ((agrees.same_place_iff orderly ha hs hc).mp index) other
    · obtain rfl := KeySync.keyId_inj ids
      have stored := agrees.get?_of_stored orderly ha hs
      rw [(agrees.same_place_iff orderly ha hs hc).mp index] at stored
      rw [renewed, find?_publicKey suits.publicKeys hc, stored]
      rfl
  · obtain ⟨rfl, s, hs, ids, live, out⟩ := (mem_removed hA suits).mp h
    rw [suits.id_of_mem hs] at ids
    obtain rfl := KeySync.keyId_inj ids
    have unreported : (a.keys.find? fun c => c.publicKey == s.publicKey) = none := by
      rw [List.find?_eq_none]
      intro c hc same
      exact out c hc ((agrees.same_place_iff orderly ha hs hc).mpr (beq_iff_eq.mp same).symm).symm
    rw [renewed, unreported, agrees.get?_of_stored orderly ha hs]
    simp [Option.filter, live]

/-- A record that is not as it would be renewed is edited. -/
theorem mem_edits_of_renewed (stale : renewed address a.keys observedAt publicKey (t.get? (keyId address publicKey)) ≠
    t.get? (keyId address publicKey)) :
    (keyId address publicKey, renewed address a.keys observedAt publicKey (t.get? (keyId address publicKey))) ∈
      edits address a.keys t observedAt := by
  have hA := orderly.prefixed ha
  have suits := agrees.suits orderly ha
  rw [edits, log_eq hA suits, List.mem_append, List.mem_append]
  unfold renewed at stale ⊢
  split at stale
  · next c found =>
    have hc := List.mem_of_find?_eq_some found
    obtain rfl := publicKey_of_find? found
    cases old : t.get? (keyId address c.publicKey) with
    | none =>
      refine .inl (.inl (mem_writes.mpr ⟨_, (mem_create a.keys observedAt hA suits _).mpr ⟨c, hc, rfl, ?_⟩, rfl, rfl⟩))
      intro s hs index
      have stored := agrees.get?_of_stored orderly ha hs
      rw [(agrees.same_place_iff orderly ha hs hc).mp index, old] at stored
      cases stored
    | some s =>
      obtain ⟨hs, same⟩ := agrees.stored_of_get? orderly ha old
      rw [old] at stale
      have differs : merged address c observedAt s ≠ s := fun eq => stale (congrArg some eq)
      refine .inl (.inr (List.mem_flatMap.mpr ⟨c, hc, ?_⟩))
      rw [rotation_of_stored hA suits hs ((agrees.same_place_iff orderly ha hs hc).mpr same) differs]
      exact List.mem_append_right _ (List.mem_singleton_self _)
  · next unreported =>
    cases old : t.get? (keyId address publicKey) with
    | none => exact absurd (by rw [old]; rfl) stale
    | some s =>
      obtain ⟨hs, rfl⟩ := agrees.stored_of_get? orderly ha old
      rw [old] at stale
      have live : s.revoked = false := by
        by_contra revoked
        exact stale (by simp [Option.filter, revoked])
      refine .inr ((mem_removed hA suits).mpr ⟨by simp [Option.filter, live], s, hs, suits.id_of_mem hs, live, ?_⟩)
      intro c hc index
      exact List.find?_eq_none.mp unreported c hc
        (beq_iff_eq.mpr ((agrees.same_place_iff orderly ha hs hc).mp index.symm).symm)

/-- A synchronisation renews the record of every public key. -/
theorem get?_edits (observedAt : Timestamp) (publicKey : String) :
    (t.edit (edits address a.keys t observedAt)).get? (keyId address publicKey) =
      renewed address a.keys observedAt publicKey (t.get? (keyId address publicKey)) := by
  by_cases fresh : renewed address a.keys observedAt publicKey (t.get? (keyId address publicKey)) =
      t.get? (keyId address publicKey)
  · rcases t.get?_edit_cases (keyId address publicKey) (edits address a.keys t observedAt) with same | written
    · exact same.trans fresh.symm
    · exact agrees.renewed_of_mem_edits orderly ha written
  · exact Table.get?_edit_of_forall (agrees.mem_edits_of_renewed orderly ha fresh) fun _ h =>
      agrees.renewed_of_mem_edits orderly ha h

/-- The records of other addresses stay. -/
theorem get?_edits_of_ne (observedAt : Timestamp) {id : String} (other : ∀ publicKey, id ≠ keyId address publicKey) :
    (t.edit (edits address a.keys t observedAt)).get? id = t.get? id := by
  have hA := orderly.prefixed ha
  have suits := agrees.suits orderly ha
  refine Table.get?_edit_of_not_mem fun v h => ?_
  rw [edits, log_eq hA suits, List.mem_append, List.mem_append] at h
  rcases h with (h | h) | h
  · obtain ⟨_, created, rfl, -⟩ := mem_writes.mp h
    obtain ⟨c, -, rfl, -⟩ := (mem_create a.keys observedAt hA suits _).mp created
    exact other _ rfl
  · obtain ⟨c, -, h⟩ := List.mem_flatMap.mp h
    obtain ⟨s, hs, -, ⟨-, rfl, -⟩ | ⟨rfl, -⟩⟩ := mem_rotation hA suits h
    · exact other _ (suits.id_of_mem hs)
    · exact other _ rfl
  · obtain ⟨-, s, hs, rfl, -⟩ := (mem_removed hA suits).mp h
    exact other _ (suits.id_of_mem hs)

end

end Agrees

end ChainIndex.KeySync
