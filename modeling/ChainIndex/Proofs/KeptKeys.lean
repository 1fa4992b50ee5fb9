import ChainIndex.Proofs.KeyConvergence

/-!
# Keys that stay

A synchronisation unbinds ids in two ways: it deletes the keys whose places are not reported, except for
the revoked ones, and it deletes the key in whose place another one is reported, be it revoked or not. So
whatever calls fail, a revoked key stays under its id unless another public key is reported in its place.
-/

set_option autoImplicit false

namespace ChainIndex

open Attempt (Leads)
open Store (Shelved)
open Indexed (Entity)

/-! ### Records that stay -/

section
variable {α π : Type} [Shelved α π]

/-- A good record stands under an id. -/
def World.Holds (id : String) (good : α → Prop) (w : World) : Prop :=
  ∃ r, (Shelved.table w.store : Table String α).get? id = some r ∧ good r

/-- A good record that stands under an id in `w` is not lost in `w'`: a good one stands there. -/
def World.Keeps (id : String) (good : α → Prop) (w w' : World) : Prop := w.Holds id good → w'.Holds id good

namespace World.Keeps
variable {id : String} {good : α → Prop}

instance : IsPreorder World (World.Keeps id good) where
  refl _ holds := holds
  trans _ _ _ h₁ h₂ holds := h₂ (h₁ holds)

theorem of_table {w w' : World} (same : (Shelved.table w'.store : Table String α) = Shelved.table w.store) :
    w.Keeps id good w' := by
  rintro ⟨r, found, hr⟩
  exact ⟨r, same ▸ found, hr⟩

theorem counted (w : World) : w.Keeps id good w.counted := of_table rfl

variable [LawfulShelf α]

theorem insert (w : World) {key : String} {a : α} (ha : key = id → good a) :
    w.Keeps id good (w.shelve ((Shelved.table w.store : Table String α).insert key a)) := by
  rintro ⟨r, found, hr⟩
  unfold Holds
  rw [World.shelve_store, LawfulShelf.table_setTable]
  by_cases same : id = key
  · exact ⟨a, same ▸ Table.get?_insert_self _ _ _, ha same.symm⟩
  · exact ⟨r, (Table.get?_insert_of_ne _ same _).trans found, hr⟩

theorem erase (w : World) {key : String} (other : key ≠ id) :
    w.Keeps id good (w.shelve ((Shelved.table w.store : Table String α).erase key)) := by
  rintro ⟨r, found, hr⟩
  unfold Holds
  rw [World.shelve_store, LawfulShelf.table_setTable]
  exact ⟨r, (Table.get?_erase_of_ne _ other.symm).trans found, hr⟩

theorem upsert {a : α} (ha : Entity.id a = id → good a) : Leads (World.Keeps id good) (Act.upsert a).run :=
  Act.leads_upsert counted fun w => insert w ha

theorem update {key : String} {patch : π} (h : ∀ a : α, key = id → good (Entity.patch patch a)) :
    Leads (World.Keeps id good) (Act.update α key patch).run :=
  Act.leads_update counted fun w a _ => insert w (h a)

theorem delete {key : String} (other : key ≠ id) : Leads (World.Keeps id good) (Act.delete α key).run :=
  Act.leads_delete counted fun w => erase w other

end World.Keeps

end

/-! ### Revoked keys -/

namespace KeySync

open Indexed (AccountKey keyId)

section
variable {address : String} {keys : List Chain.AccountKey} {t : Table String AccountKey}
  {observedAt : Timestamp} {s : AccountKey}

/-- A record is the one that was stored, or the chain reports its public key and it shows that. -/
def Current (address : String) (keys : List Chain.AccountKey) (s r : AccountKey) : Prop :=
  r = s ∨ ∃ k ∈ keys, k.publicKey = s.publicKey ∧ Shows address k r

theorem keysOf_cases (address : String) (w : World) :
    (∃ e, w.outages.call w.calls (.findAll .key) = some e ∧ (keysOf address).run.run w = (.error e, w.counted)) ∨
      (keysOf address).run.run w = (.ok (storedKeys address w.store.keys), w.counted) := by
  rcases Act.read_cases (.findAll .key) (fun s => (Shelved.table s : Table String AccountKey).values) w with
    ⟨e, outage, failed⟩ | ⟨-, found⟩
  · exact .inl ⟨e, outage, Attempt.run_bind_of_error failed⟩
  · exact .inr (Attempt.run_bind_of_ok found)

/-- Where the operations of a synchronisation lead to a related world the synchronisation does. -/
theorem leads_sync {r : World → World → Prop} [IsPreorder World r] (counted : ∀ w : World, r w w.counted) {w : World}
    {account : Chain.Account}
    (h : Leads r (Diff.apply Act.upsert (replace (storedKeys address w.store.keys))
      (fun k => Act.delete AccountKey k.id) (delta address account.keys w.store.keys observedAt))) :
    r w ((sync address account observedAt).run.run w).2 := by
  unfold sync
  rcases keysOf_cases address w with ⟨e, -, failed⟩ | found
  · rw [Attempt.run_bind_of_error failed]
    exact counted w
  · rw [Attempt.run_bind_of_ok found]
    exact trans_of r (counted w) (h _)

/-- Replacing a key unbinds an id only if another key is stored there under the place of the new one. -/
theorem keeps_replace {id : String} {good : AccountKey → Prop} {stored : List AccountKey} {k : AccountKey}
    (written : k.id = id → good k) (apart : idAt? stored k.index = some id → k.id = id) :
    Leads (World.Keeps id good) (replace stored k).run := by
  have updates : Leads (World.Keeps id good) (Act.update AccountKey k.id k).run := .update fun _ => written
  have writes : Leads (World.Keeps id good) (Act.upsert k).run := .upsert written
  have deletes (previous : String) (place : idAt? stored k.index = some previous) (moved : previous ≠ k.id) :
      Leads (World.Keeps id good) (Act.delete AccountKey previous).run :=
    .delete fun same => moved (same.trans (apart (same ▸ place)).symm)
  refine Attempt.Uses.leads (fun h => h) (uses_replace updates.uses ?_ writes.uses)
  exact fun previous place moved => (deletes previous place moved).uses

variable (hA : Address.prefixed address = address) (fits : Suits address keys t)
include hA fits

omit hA in
theorem current_of_shows (hs : s ∈ storedKeys address t) {k : Chain.AccountKey} (hk : k ∈ keys) {r : AccountKey}
    (shows : Shows address k r) (same : r.id = s.id) : Current address keys s r := by
  rw [shows.id, fits.id_of_mem hs] at same
  exact .inr ⟨k, hk, keyId_inj same, shows⟩

/-- The operations of a synchronisation keep a revoked key whose place is reported with its own public
key, if at all. -/
theorem keeps_apply (hs : s ∈ storedKeys address t) (revoked : s.revoked = true)
    (place : ∀ k ∈ keys, k.index = s.index → k.publicKey = s.publicKey) :
    Leads (World.Keeps s.id (Current address keys s))
      (Diff.apply Act.upsert (replace (storedKeys address t)) (fun k => Act.delete AccountKey k.id)
        (delta address keys t observedAt)) := by
  let keeps : (α : Type) → StateM World α → Prop := fun _ => Leads (World.Keeps s.id (Current address keys s))
  refine Attempt.Uses.leads (id : ∀ {α work}, keeps α work → _) (Diff.uses_apply ?_ ?_ ?_)
  · intro a created
    obtain ⟨k, hk, rfl, -⟩ := (mem_create keys observedAt hA fits a).mp created
    exact (World.Keeps.upsert fun same => current_of_shows fits hs hk (shows_ofChain hA k) same).uses
  · intro u updated
    obtain ⟨k, hk, s', hs', index, -, rfl⟩ := mem_update hA fits observedAt updated
    refine (keeps_replace (fun same => current_of_shows fits hs hk (shows_merged hA k s') same) ?_).uses
    intro stored
    -- The key in the place of the reported one has another id, unless it is the revoked one itself.
    have here : some s'.id = some s.id := by
      rw [← fits.idAt?_of_mem hs', index]
      exact stored
    obtain rfl : s' = s := by
      have found := fits.get?_of_mem hs'
      rw [Option.some.inj here, fits.get?_of_mem hs] at found
      exact (Option.some.inj found).symm
    rw [fits.id_of_mem hs, ← place k hk index.symm]
    rfl
  · intro d deleted
    obtain ⟨hd, live, -⟩ := (mem_delete keys observedAt hA fits d).mp deleted
    refine (World.Keeps.delete fun same => ?_).uses
    have found := fits.get?_of_mem hd
    rw [same, fits.get?_of_mem hs] at found
    obtain rfl := Option.some.inj found
    rw [revoked] at live
    cases live

/-- A synchronisation keeps a revoked key whatever calls fail. -/
theorem keeps_sync (observedAt : Timestamp) {w : World} (stored : w.store.keys = t) (hs : s ∈ storedKeys address t)
    (revoked : s.revoked = true) (place : ∀ k ∈ keys, k.index = s.index → k.publicKey = s.publicKey)
    {account : Chain.Account} (reported : account.keys = keys) :
    w.Keeps s.id (Current address keys s) ((sync address account observedAt).run.run w).2 := by
  obtain rfl := reported
  obtain rfl := stored
  exact leads_sync .counted (keeps_apply hA fits hs revoked place)

/-- A stored key is unbound if another one is reported in its place and its public key is not reported. -/
theorem lost_of_replaced (hs : s ∈ storedKeys address t) {k : Chain.AccountKey} (hk : k ∈ keys)
    (place : k.index = s.index) (vanished : ∀ k ∈ keys, k.publicKey ≠ s.publicKey) :
    (t.edit (edits address keys t observedAt)).get? s.id = none := by
  have erased : (s.id, none) ∈ edits address keys t observedAt := by
    rw [edits, log_eq hA fits]
    refine List.mem_append_left _ (List.mem_append_right _ (List.mem_flatMap.mpr ⟨k, hk, ?_⟩))
    exact mem_rotation_erased hA fits hs place.symm (vanished k hk).symm
  refine Table.get?_edit_of_forall erased fun u hu => ?_
  cases u with
  | none => rfl
  | some r =>
    obtain ⟨k', hk', same, -⟩ := mem_edits_bound hA fits hu
    rw [fits.id_of_mem hs] at same
    exact absurd (keyId_inj same).symm (vanished k' hk')

end

end KeySync

namespace Account

open KeySync Indexed

/-- Writing an account that was found leads to a related world if the writes of its record and of its contracts do
and its synchronisation does from the keys that were there. -/
theorem leads_store {r : World → World → Prop} [IsPreorder World r] {w : World} {account : Chain.Account}
    {observedAt : Timestamp} (record : r w ((Act.upsert (Indexed.Account.ofChain account)).run.run w).2)
    (keys : ∀ v : World, v.store.keys = w.store.keys →
      r v ((sync (Address.prefixed account.address) account observedAt).run.run v).2)
    (parts : ∀ c ∈ contracts account, Leads r (Act.upsert c).run) :
    r w ((store observedAt account).run.run w).2 := by
  have upserted : Only [.shelf .account] (Act.upsert (Indexed.Account.ofChain account)).run := .upsert _ (by decide)
  have same : ((Act.upsert (Indexed.Account.ofChain account)).run.run w).2.store.keys = w.store.keys :=
    (upserted w).shelf .key (by decide)
  refine Attempt.run_bind_snd record fun _ v run => ?_
  change r w ((Act.upsert (Indexed.Account.ofChain account)).run.run w).2 at record
  rw [run] at same record
  have synced := trans_of r record (keys v same)
  refine Attempt.run_bind_snd synced fun result u run => ?_
  obtain rfl : _ = u := congrArg Prod.snd run
  refine trans_of r synced (Leads.seq (.lift (.forEach parts)) (fun _ => ?_) _)
  cases result with
  | error e => exact .throw e
  | ok report =>
    dsimp only
    split
    · exact .ok _
    · exact .throw _

/-- Writing an account that was found keeps a revoked key whatever calls fail. -/
theorem keeps_store {w : World} {account : Chain.Account} {s : AccountKey}
    (suits : Suits (Address.prefixed account.address) account.keys w.store.keys)
    (hs : s ∈ storedKeys (Address.prefixed account.address) w.store.keys) (revoked : s.revoked = true)
    (place : ∀ k ∈ account.keys, k.index = s.index → k.publicKey = s.publicKey) (observedAt : Timestamp) :
    w.Keeps s.id (Current (Address.prefixed account.address) account.keys s)
      ((store observedAt account).run.run w).2 := by
  have account_only : Only [.shelf .account] (Act.upsert (Indexed.Account.ofChain account)).run := .upsert _ (by decide)
  refine leads_store (.of_table ((account_only w).shelf .key (by decide))) (fun v same => ?_) fun c _ v => ?_
  · exact keeps_sync (Address.prefixed_prefixed _) suits observedAt same hs revoked place rfl
  · have contract : Only [.shelf .contract] (Act.upsert c).run := .upsert c (by decide)
    exact .of_table ((contract v).shelf .key (by decide))

section
variable {w : World} {address : String} {account : Chain.Account} (known : w.node.account address = .ok account)
  (suits : Suits (Address.prefixed account.address) account.keys w.store.keys)
  {id : String} {s : AccountKey} (stored : w.store.keys.get? id = some s)
  (own : s.address = Address.prefixed account.address)
include known suits stored own

/-- Whatever calls fail, a revoked key of an account stays under its id when the account is indexed, as it
was or as the chain reports it, unless the chain reports another public key in its place. -/
theorem index_keeps_revoked (revoked : s.revoked = true)
    (place : ∀ k ∈ account.keys, k.index = s.index → k.publicKey = s.publicKey) (observedAt : Timestamp) :
    ∃ r, ((index address observedAt).run.run w).2.store.keys.get? id = some r ∧
      Current (Address.prefixed account.address) account.keys s r := by
  have hs : s ∈ storedKeys (Address.prefixed account.address) w.store.keys := mem_storedKeys.mpr ⟨⟨id, stored⟩, own⟩
  obtain rfl : s.id = id := suits.own id s stored
  suffices keeps : w.Keeps s.id (Current (Address.prefixed account.address) account.keys s)
      ((index address observedAt).run.run w).2 from keeps ⟨s, stored, .inl rfl⟩
  rw [index_eq, look]
  rcases Act.ask_cases (.account address) (Chain.Node.account address) w with ⟨e, -, failed⟩ | ⟨-, found⟩
  · rw [Attempt.run_bind_of_error failed]
    exact .counted w
  · rw [known] at found
    rw [Attempt.run_bind_of_ok found]
    exact trans_of _ (.counted w) (keeps_store (w := w.counted) suits hs revoked place observedAt)

/-- Where no call fails a stored key, be it revoked or not, is lost when the chain reports another one in
its place and does not report its public key. -/
theorem index_loses_replaced (index : ∀ kind ∈ [Kind.account, .key, .contract], w.Answers (Call.On kind))
    (reach : w.Answers (· = .account address)) {k : Chain.AccountKey} (hk : k ∈ account.keys)
    (place : k.index = s.index) (vanished : ∀ k ∈ account.keys, k.publicKey ≠ s.publicKey) (observedAt : Timestamp) :
    ∃ w', (Account.index address observedAt).run.run w = (.ok (), w') ∧ w'.store.keys.get? id = none := by
  have hs : s ∈ storedKeys (Address.prefixed account.address) w.store.keys := mem_storedKeys.mpr ⟨⟨id, stored⟩, own⟩
  obtain rfl : s.id = id := suits.own id s stored
  obtain ⟨w', run, indexes⟩ := indexes_of_suits index reach known suits observedAt
  refine ⟨w', run, ?_⟩
  rw [indexes.keys]
  exact lost_of_replaced (Address.prefixed_prefixed _) suits hs hk place vanished

end

/-! ### A replaced key -/

/-- The revoked key `aa` at the first place of the account `0x01`. -/
def revokedKey : AccountKey := .ofChain "0x01" ⟨0, "aa", 0, 0, 1000, 0, true⟩ .epoch

/-- A world in which the index holds the revoked key and the chain reports others. -/
def revokedWorld (reported : List (UInt32 × String)) : World :=
  .start (Chain.Node.empty.putAccount (holding reported))
    { Store.empty with keys := .ofList [("0x01.aa", revokedKey)] } .epoch

/-- The chain reports `bb` at the second place, and `bb` cannot be written. -/
def revokedKept : World :=
  { revokedWorld [(1, "bb")] with
    outages := ⟨fun _ call => if call = .upsert .key "0x01.bb" then some (.storage "full") else none, fun _ => none⟩ }

/-- The chain reports `bb` at the first place. -/
def revokedReplaced : World := revokedWorld [(0, "bb")]

theorem index_keeps_revoked_unwritten :
    (∃ e, ((index "0x01" .epoch).run.run revokedKept).1 = .error e) ∧
      ∃ r, ((index "0x01" .epoch).run.run revokedKept).2.store.keys.get? "0x01.aa" = some r ∧
        Current "0x01" (holding [(1, "bb")]).keys revokedKey r := by
  have fits : Fits "0x01" (holding [(1, "bb")]).keys revokedKept.store.keys :=
    fits_of_entries (by decide) (by decide) (by decide) (by decide)
  have known : revokedKept.node.account "0x01" = .ok (holding [(1, "bb")]) := rfl
  have stored : revokedKept.store.keys.get? "0x01.aa" = some revokedKey := rfl
  refine ⟨⟨.other "1 key operations failed for 0x01", by decide +kernel⟩, ?_⟩
  exact index_keeps_revoked known fits.suits stored (by decide) rfl (by decide) .epoch

/-- A revoked key is lost when the chain reports another one in its place. -/
theorem revoked_lost_replaced :
    Fits "0x01" (holding [(0, "bb")]).keys revokedReplaced.store.keys ∧
      revokedReplaced.store.keys.get? "0x01.aa" = some revokedKey ∧ revokedKey.revoked = true ∧
      revokedReplaced.node.account "0x01" = .ok (holding [(0, "bb")]) ∧
      ((index "0x01" .epoch).run.run revokedReplaced).2.store.keys.get? "0x01.aa" = none := by
  have fits : Fits "0x01" (holding [(0, "bb")]).keys revokedReplaced.store.keys :=
    fits_of_entries (by decide) (by decide) (by decide) (by decide)
  have known : revokedReplaced.node.account "0x01" = .ok (holding [(0, "bb")]) := rfl
  have stored : revokedReplaced.store.keys.get? "0x01.aa" = some revokedKey := rfl
  have answers : ∀ kind ∈ [Kind.account, .key, .contract], revokedReplaced.Answers (Call.On kind) :=
    fun _ _ _ _ _ _ => rfl
  obtain ⟨w', run, lost⟩ := index_loses_replaced known fits.suits stored (by decide) answers (fun _ _ _ _ => rfl)
    (k := ⟨0, "bb", 0, 0, 1000, 0, false⟩) (by decide) rfl (by decide) .epoch
  refine ⟨fits, stored, rfl, known, ?_⟩
  rw [run]
  exact lost

end Account

end ChainIndex
