import ChainIndex.Proofs.Renewals

/-!
# Indexing an account again

Where every stored key of an account is in its place, or neither its place nor its public key is reported, a
synchronisation leaves an index that shows every reported key in its place and otherwise only revoked keys
whose places are not reported. From there the reconciliation finds nothing to do (`KeySync.delta_of_converged`),
and all other writes write what is there already.
-/

set_option autoImplicit false

namespace ChainIndex

open Indexed (AccountKey keyId)

/-- Where one index may change and did not, the store is as it was. -/
theorem World.Within.still_of_same {kind : Kind} {w w' : World} (within : w.Within [.shelf kind] w')
    (same : w.store.Same w'.store kind) : w'.store = w.store := by
  refine Store.eq_of_same fun k => ?_
  by_cases own : k = kind
  · exact own ▸ same
  · exact within.shelf k (by simpa using own)

/-- The calls that change the index of keys. -/
def Call.ChangesKeys : Call → Prop
  | .create kind _ | .update kind _ | .upsert kind _ | .delete kind _ => kind = .key
  | _ => False

theorem Call.not_changesKeys {kind : Kind} (other : kind ≠ .key) {call : Call} (on : call.On kind) :
    ¬ call.ChangesKeys := by
  intro changes
  cases call <;> first | exact other (on.symm.trans changes) | exact changes

namespace KeySync

/-- A stored key of the account is in the place where it is reported, or neither its place nor its public key
is reported. -/
def InPlace (address : String) (keys : List Chain.AccountKey) (t : Table String AccountKey) : Prop :=
  ∀ id s, t.get? id = some s → s.address = address →
    (∃ k ∈ keys, k.index = s.index ∧ k.publicKey = s.publicKey) ∨
      ∀ k ∈ keys, k.index ≠ s.index ∧ k.publicKey ≠ s.publicKey

variable {address : String} {keys : List Chain.AccountKey} {t : Table String AccountKey}
  {observedAt : Timestamp}

/-- A concrete index is checked entry by entry. -/
theorem inPlace_of_entries (h : ∀ e ∈ t.entries, e.2.address = address →
    (∃ k ∈ keys, k.index = e.2.index ∧ k.publicKey = e.2.publicKey) ∨
      ∀ k ∈ keys, k.index ≠ e.2.index ∧ k.publicKey ≠ e.2.publicKey) : InPlace address keys t :=
  fun id s found => h (id, s) ((t.mem_entries_iff id s).mpr found)

/-- A key that is stored as it is reported has nothing to take over from the chain. -/
theorem merged_of_shows {k : Chain.AccountKey} {s : AccountKey} (hA : Address.prefixed address = address)
    (shows : Shows address k s) (observedAt : Timestamp) : merged address k observedAt s = s := by
  cases s
  obtain ⟨id, own, index, publicKey, signAlgo, hashAlgo, weight, sequenceNumber, revoked⟩ := shows
  simp only at id own index publicKey signAlgo hashAlgo weight sequenceNumber revoked
  simp [merged, AccountKey.merge, AccountKey.ofChain, hA, id, own, index, publicKey, signAlgo, hashAlgo, weight,
    sequenceNumber, revoked]

section
variable (hA : Address.prefixed address = address) (suits : Suits address keys t)
include hA suits

/-! ### The first time -/

section
variable (inPlace : InPlace address keys t)
include inPlace

omit hA in
theorem same_place {s : AccountKey} (hs : s ∈ storedKeys address t) {k : Chain.AccountKey} (hk : k ∈ keys) :
    s.index = k.index ↔ s.publicKey = k.publicKey := by
  obtain ⟨⟨id, hid⟩, own⟩ := mem_storedKeys.mp hs
  rcases inPlace id s hid own with ⟨c, hc, index, publicKey⟩ | out
  · rw [← index, ← publicKey]
    constructor
    · intro same
      rw [List.inj_on_of_nodup_map suits.indexes hc hk same]
    · intro same
      rw [List.inj_on_of_nodup_map suits.publicKeys hc hk same]
  · exact ⟨fun same => absurd same.symm (out k hk).1, fun same => absurd same.symm (out k hk).2⟩

omit hA in
theorem compatible_of_inPlace : Compatible address keys t := by
  intro before k after split s hs publicKey elsewhere
  have hk : k ∈ keys := by simp [split]
  exact absurd ((same_place suits inPlace hs hk).mpr publicKey) elsewhere

/-- What a synchronisation leaves can be synchronised again. -/
theorem suits_edits (observedAt : Timestamp) : Suits address keys (t.edit (edits address keys t observedAt)) := by
  have cases {id : String} {k : AccountKey} (h : (t.edit (edits address keys t observedAt)).get? id = some k) :
      t.get? id = some k ∨ ∃ c ∈ keys, id = keyId address c.publicKey ∧ Shows address c k := by
    rcases t.get?_edit_cases id (edits address keys t observedAt) with same | written
    · exact .inl (same ▸ h)
    · obtain ⟨c, hc, ids, yields⟩ := mem_edits_bound hA suits (h ▸ written)
      exact .inr ⟨c, hc, ids, yields.shows hA⟩
  -- A key that was stored before stands under the id of the one that is reported in its place.
  have mixed {id : String} {k : AccountKey} (h : t.get? id = some k) (own : k.address = address)
      {c : Chain.AccountKey} (hc : c ∈ keys) (place : k.index = c.index) : id = keyId address c.publicKey := by
    have stored : k ∈ storedKeys address t := mem_storedKeys.mpr ⟨⟨id, h⟩, own⟩
    rw [suits.named id k h own, (same_place suits inPlace stored hc).mp place]
  constructor
  · intro id k h
    rcases cases h with old | ⟨c, -, rfl, shows⟩
    · exact suits.own id k old
    · exact shows.id
  · intro id k h own
    rcases cases h with old | ⟨c, -, rfl, shows⟩
    · exact suits.named id k old own
    · rw [shows.publicKey]
  · intro id id' k k' h h' own own' place
    rcases cases h with old | ⟨c, hc, rfl, shows⟩ <;> rcases cases h' with old' | ⟨c', hc', rfl, shows'⟩
    · exact suits.slots id id' k k' old old' own own' place
    · exact mixed old own hc' (place.trans shows'.index)
    · exact (mixed old' own' hc (place.symm.trans shows.index)).symm
    · have same := shows.index.symm.trans (place.trans shows'.index)
      rw [List.inj_on_of_nodup_map suits.indexes hc hc' same]
  · exact suits.indexes
  · exact suits.publicKeys

end

/-! ### The second time -/

/-- Nothing is left to be done to an index that shows the reported keys and has no other live ones. -/
theorem delta_of_converged {before : Table String AccountKey} (converged : Converged address keys before t)
    (observedAt : Timestamp) : delta address keys t observedAt = Diff.empty := by
  have create : (delta address keys t observedAt).create = [] := by
    refine List.eq_nil_iff_forall_not_mem.mpr fun a created => ?_
    obtain ⟨k, hk, -, free⟩ := (mem_create keys observedAt hA suits a).mp created
    obtain ⟨r, found, shows⟩ := converged.shown k hk
    exact free r (mem_storedKeys.mpr ⟨⟨_, found⟩, shows.address⟩) shows.index
  have update : (delta address keys t observedAt).update = [] := by
    refine List.eq_nil_iff_forall_not_mem.mpr fun u updated => ?_
    obtain ⟨k, hk, s, hs, place, differs, -⟩ := mem_update hA suits observedAt updated
    obtain ⟨r, found, shows⟩ := converged.shown k hk
    have hr : r ∈ storedKeys address t := mem_storedKeys.mpr ⟨⟨_, found⟩, shows.address⟩
    obtain rfl := suits.eq_of_index hr hs (shows.index.trans place.symm)
    exact differs (merged_of_shows hA shows observedAt)
  have delete : (delta address keys t observedAt).delete = [] := by
    refine List.eq_nil_iff_forall_not_mem.mpr fun s deleted => ?_
    obtain ⟨hs, live, out⟩ := (mem_delete keys observedAt hA suits s).mp deleted
    have stored := suits.get?_of_mem hs
    by_cases shown : ∃ k ∈ keys, s.id = keyId address k.publicKey
    · obtain ⟨k, hk, ids⟩ := shown
      obtain ⟨r, found, shows⟩ := converged.shown k hk
      rw [← ids, stored] at found
      obtain rfl := Option.some.inj found
      exact out k hk shows.index.symm
    · have other : ∀ k ∈ keys, s.id ≠ keyId address k.publicKey := fun k hk same => shown ⟨k, hk, same⟩
      have revoked := (converged.others s.id s stored (mem_storedKeys.mp hs).2 other).1
      rw [live] at revoked
      cases revoked
  generalize delta address keys t observedAt = d at create update delete
  obtain ⟨creates, updates, deletes⟩ := d
  obtain rfl : creates = [] := create
  obtain rfl : updates = [] := update
  obtain rfl : deletes = [] := delete
  rfl

end

/-- Where nothing is to be done a synchronisation reads the index and leaves it alone. -/
theorem sync_of_empty {w : World} {account : Chain.Account}
    (reads : w.outages.call w.calls (.findAll .key) = none)
    (nothing : delta address account.keys w.store.keys observedAt = Diff.empty) :
    (sync address account observedAt).run.run w = (.ok ⟨0, 0, 0, 0⟩, w.counted) := by
  have found : (keysOf address).run.run w = (.ok (storedKeys address w.store.keys), w.counted) :=
    Attempt.run_bind_of_ok (Act.attempt_of_answer reads)
  have planned : diff (storedKeys address w.store.keys)
      (account.keys.map fun k => AccountKey.ofChain address k observedAt) = Diff.empty := nothing
  unfold sync
  rw [Attempt.run_bind_of_ok found]
  simp only [planned]
  rfl

end KeySync

namespace Account

open KeySync

variable {w : World} {address : String} {account : Chain.Account}

/-- An account that stands in the indexes as the chain has it is indexed without a change of any index, also
where the index of keys cannot be changed. -/
theorem index_of_current (others : w.Answers fun call => ¬ call.ChangesKeys)
    (known : w.node.account address = .ok account) {observedAt : Timestamp}
    (record : w.store.accounts.get? (Indexed.Account.ofChain account).id = some (.ofChain account))
    (keys : delta (Address.prefixed account.address) account.keys w.store.keys observedAt = Diff.empty)
    (parts : ∀ c ∈ contracts account, w.store.contracts.get? c.id = some c) :
    ∃ w', (index address observedAt).run.run w = (.ok (), w') ∧ w'.store = w.store := by
  have on (kind : Kind) (other : kind ≠ .key) : w.Answers (Call.On kind) :=
    others.mono fun _ => Call.not_changesKeys other
  have looked : (look address).run.run w = (.ok account, w.counted) := by
    rw [← known]
    exact BlockData.ask_of_answers (Chain.Node.account address) others id
  have within₀ := World.Within.counted ([] : List Part) w
  obtain ⟨w₁, run₁, edited₁⟩ := Act.upsert_edits (within₀.answers (on .account (by decide)))
    (Indexed.Account.ofChain account)
  have within₁ := (within₀.mono (List.nil_subset _)).trans edited₁.within
  have store₁ : w₁.store = w.store := by
    have table : w₁.store.accounts = w.store.accounts.edit [_] := edited₁.table
    refine within₁.still_of_same (table.trans (Table.edit_of_stored fun e he => ?_))
    rw [List.mem_singleton.mp he]
    exact record
  -- The keys are read, and then there is nothing to do.
  have reads : w₁.outages.call w₁.calls (.findAll .key) = none :=
    within₁.answers others w₁.calls (Nat.le_refl _) _ id
  rw [← store₁] at keys
  have synced := Attempt.run_result (sync (Address.prefixed account.address) account observedAt) w₁
  rw [sync_of_empty reads keys] at synced
  have within₂ := (World.Within.counted ([] : List Part) w₁).mono (List.nil_subset [Part.shelf .account])
  have answers₂ := (within₁.trans within₂).answers (on .contract (by decide))
  obtain ⟨results, w₃, run₃, -, edited₃⟩ := Act.forEach_edits Act.upsert
    (fun c : Indexed.Contract => [(c.id, some c)]) (l := contracts account) fun before c after _ v hv =>
      ⟨(), Act.upsert_edits (hv.within.answers answers₂) c⟩
  refine ⟨w₃, ?_, ?_⟩
  · unfold Account.index
    rw [Attempt.run_bind_of_ok looked, Attempt.run_bind_of_ok run₁, Attempt.run_bind_of_ok synced,
      Attempt.run_bind_of_ok (Attempt.run_lift _ _), run₃]
    rfl
  · refine Eq.trans (edited₃.within.still_of_same ?_) store₁
    refine Eq.trans edited₃.table (Table.edit_of_stored fun e he => ?_)
    obtain ⟨c, hc, h⟩ := List.mem_flatMap.mp he
    rw [List.mem_singleton.mp h]
    exact (congrArg (fun s : Store => s.contracts.get? c.id) store₁).trans (parts c hc)

/-- If every stored key of an account is in the place where it is reported, or has nothing to do with the
reported ones, then an account that was indexed without a failing call is indexed again, at whatever time,
without a change of any index and without a call that would change the index of keys: none of them would
have to succeed. -/
theorem index_again (index : ∀ kind ∈ [Kind.account, .key, .contract], w.Answers (Call.On kind))
    (reach : w.Answers (· = .account address)) (known : w.node.account address = .ok account)
    (fits : Fits (Address.prefixed account.address) account.keys w.store.keys)
    (inPlace : InPlace (Address.prefixed account.address) account.keys w.store.keys) (observedAt later : Timestamp) :
    ∃ w', (Account.index address observedAt).run.run w = (.ok (), w') ∧
      delta (Address.prefixed account.address) account.keys w'.store.keys later = Diff.empty ∧
      ∀ outages, ({ w' with outages } : World).Answers (fun call => ¬ call.ChangesKeys) →
        ∃ w'', (Account.index address later).run.run { w' with outages } = (.ok (), w'') ∧ w''.store = w'.store := by
  have own := Address.prefixed_prefixed account.address
  obtain ⟨w', run, indexes⟩ := index_edits index reach known fits observedAt
  have converged : Converged _ _ _ (w.store.keys.edit (edits _ account.keys w.store.keys observedAt)) :=
    (converged_iff own fits).mpr (compatible_of_inPlace fits inPlace)
  have nothing := delta_of_converged own (suits_edits own fits inPlace observedAt) converged later
  rw [← indexes.keys] at nothing
  refine ⟨w', run, nothing, fun outages others => ?_⟩
  have node : w'.node = w.node := indexes.within.node (by decide)
  refine index_of_current (w := { w' with outages }) others (node ▸ known) ?_ nothing fun c hc => ?_
  · show w'.store.accounts.get? _ = _
    rw [indexes.accounts]
    exact Table.get?_edit_self _ _ _
  · show w'.store.contracts.get? _ = _
    rw [indexes.contracts]
    exact get?_contract_edits hc _

/-! ### An account of four keys -/

/-- The index holds three keys of the account `0x01`: one that the chain reports too, a live one that it does
not report, and a revoked one that it does not report. The chain reports one that is not stored. -/
def renewedWorld : World :=
  { holdingWorld [] [(0, "aa"), (2, "cc")] with
    store := { Store.empty with
      keys := .ofList
        [("0x01.aa", .ofChain "0x01" ⟨0, "aa", 0, 0, 500, 0, false⟩ .epoch),
          ("0x01.bb", .ofChain "0x01" ⟨1, "bb", 0, 0, 1000, 0, false⟩ .epoch),
          ("0x01.dd", .ofChain "0x01" ⟨3, "dd", 0, 0, 1000, 0, true⟩ .epoch)] } }

/-- The index of keys cannot be changed. -/
def keysFull : Outages where
  call _
    | .create .key _ | .update .key _ | .upsert .key _ | .delete .key _ => some (.storage "full")
    | _ => none
  stream _ := none

theorem answers_keysFull (w : World) :
    ({ w with outages := keysFull } : World).Answers fun call => ¬ call.ChangesKeys := by
  intro n _ call other
  show keysFull.call n call = none
  unfold keysFull
  dsimp only
  split <;> first | rfl | exact absurd rfl other

/-- A second after the epoch. -/
def nextSecond : Timestamp := { Timestamp.epoch with second := ⟨1, by decide⟩ }

theorem index_again_keysFull :
    ∃ w', (index "0x01" .epoch).run.run renewedWorld = (.ok (), w') ∧
      w'.store.keys.values.map (·.id) = ["0x01.aa", "0x01.cc", "0x01.dd"] ∧
      ∃ w'', (index "0x01" nextSecond).run.run { w' with outages := keysFull } = (.ok (), w'') ∧ w''.store = w'.store := by
  have fits : Fits "0x01" (holding [(0, "aa"), (2, "cc")]).keys renewedWorld.store.keys :=
    fits_of_entries (by decide) (by decide) (by decide) (by decide)
  have inPlace : InPlace "0x01" (holding [(0, "aa"), (2, "cc")]).keys renewedWorld.store.keys :=
    inPlace_of_entries (by decide)
  have answers : ∀ kind ∈ [Kind.account, .key, .contract], renewedWorld.Answers (Call.On kind) :=
    fun _ _ _ _ _ _ => rfl
  have known : renewedWorld.node.account "0x01" = .ok (holding [(0, "aa"), (2, "cc")]) := rfl
  obtain ⟨w', run, -, again⟩ := index_again answers (fun _ _ _ _ => rfl) known fits inPlace .epoch
    nextSecond
  refine ⟨w', run, ?_, again keysFull (answers_keysFull w')⟩
  obtain rfl : ((index "0x01" .epoch).run.run renewedWorld).2 = w' := by rw [run]
  decide +kernel

end Account

end ChainIndex
