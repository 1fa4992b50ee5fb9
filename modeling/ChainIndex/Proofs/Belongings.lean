import ChainIndex.Proofs.KeptKeys
import ChainIndex.Proofs.Renewals
import ChainIndex.Proofs.Slots

/-!
# What belongs to an account

On a chain whose accounts stand still, the records of an account are only ever written as the chain has
them. Whatever calls fail, no effect of an event makes them anything else, and none unbinds them but the
removal of a key or of a contract: a synchronisation finds the keys of the account at their places.
-/

set_option autoImplicit false

namespace ChainIndex

open Attempt (Leads Uses)
open Indexed (AccountKey keyId contractId)
open KeySync (Shows storedKeys idAt?)

/-- A node has an account at an address, whose keys have distinct places and distinct public keys, and no
other account has a key or a contract under an id of one of the account's. -/
structure Chain.Node.Hosts (n : Chain.Node) (address : String) (account : Chain.Account) : Prop where
  keyed : n.Keyed
  found : n.accounts.get? address = some account
  indexes : (account.keys.map (·.index)).Nodup
  publicKeys : (account.keys.map (·.publicKey)).Nodup
  keys : ∀ other b, n.accounts.get? other = some b → other ≠ address → ∀ k ∈ b.keys, ∀ c ∈ account.keys,
    keyId other k.publicKey ≠ keyId address c.publicKey
  contracts : ∀ other b, n.accounts.get? other = some b → other ≠ address →
    ∀ name r, Indexed.Contract.ofChain? b name = some r → ∀ c ∈ ChainIndex.Account.contracts account, r.id ≠ c.id

/-- Where no address holds a dot the ids of different accounts are different. -/
theorem Chain.Node.Orderly.hosts {n : Chain.Node} (orderly : n.Orderly) {address : String} {account : Chain.Account}
    (found : n.accounts.get? address = some account) : n.Hosts address account := by
  have apart {other : String} {b : Chain.Account} (hb : n.accounts.get? other = some b) (ne : other ≠ address)
      (x y : String) : other ++ "." ++ x ≠ address ++ "." ++ y :=
    fun same => ne (append_dot_inj (orderly.dotless_get? hb) (orderly.dotless_get? found) same).1
  refine ⟨orderly.keyed, found, orderly.indexes _ _ found, orderly.publicKeys _ _ found, ?_, ?_⟩
  · intro other b hb ne k _ c _
    rw [keyId, keyId, orderly.prefixed hb, orderly.prefixed found]
    exact apart hb ne _ _
  · intro other b hb ne name r hr c hc
    obtain ⟨name', -, hc⟩ := List.mem_filterMap.mp hc
    obtain ⟨code, -, rfl⟩ := Option.map_eq_some_iff.mp hr
    obtain ⟨code', -, rfl⟩ := Option.map_eq_some_iff.mp hc
    rw [contractId, contractId, orderly.keyed.accounts _ _ hb, orderly.keyed.accounts _ _ found]
    exact apart hb ne name name'

/-- A key has the address of an account exactly if it stands under the id of one of the account's keys, and
then it shows that key. -/
structure Indexed.AccountKey.Belongs (address : String) (account : Chain.Account) (k : AccountKey) : Prop where
  own : k.address = address → ∃ c ∈ account.keys, Shows address c k
  named : ∀ c ∈ account.keys, k.id = keyId address c.publicKey → Shows address c k

/-- The accounts of a world are those of a node, and what is on record of the account is as the node has it. -/
structure World.Sound (n : Chain.Node) (address : String) (account : Chain.Account) (w : World) : Prop where
  accounts : w.node.accounts = n.accounts
  record : ∀ r, w.store.accounts.get? address = some r → r = .ofChain account
  keys : w.store.keys.All fun id k => k.id = id ∧ k.Belongs address account

/-- What was on record of the account in `w` is so in `w'`. -/
structure World.Spares (address : String) (account : Chain.Account) (w w' : World) : Prop where
  record : w.Keeps address (· = Indexed.Account.ofChain account) w'
  keys : ∀ c ∈ account.keys, w.Keeps (keyId address c.publicKey) (Shows address c) w'
  contracts : ∀ c ∈ Account.contracts account, w.Keeps c.id (· = c) w'

instance {address : String} {account : Chain.Account} : IsPreorder World (World.Spares address account) where
  refl w := ⟨refl_of _ w, fun _ _ => refl_of _ w, fun _ _ => refl_of _ w⟩
  trans _ _ _ h₁ h₂ := ⟨trans_of _ h₁.record h₂.record, fun c hc => trans_of _ (h₁.keys c hc) (h₂.keys c hc),
    fun c hc => trans_of _ (h₁.contracts c hc) (h₂.contracts c hc)⟩

/-- From `w` to `w'` what is on record of the account stays as the node has it, and it stays on record if it
is to be `kept`. -/
def World.Tends (n : Chain.Node) (address : String) (account : Chain.Account) (kept : Prop) (w w' : World) : Prop :=
  w.Sound n address account → w'.Sound n address account ∧ (kept → w.Spares address account w')

variable {n : Chain.Node} {address : String} {account : Chain.Account} {kept : Prop}

namespace World.Tends

instance : IsPreorder World (World.Tends n address account kept) where
  refl w sound := ⟨sound, fun _ => refl_of _ w⟩
  trans _ _ _ h₁ h₂ sound :=
    ⟨(h₂ (h₁ sound).1).1, fun hk => trans_of _ ((h₁ sound).2 hk) ((h₂ (h₁ sound).1).2 hk)⟩

theorem of_within {parts : List Part} {w w' : World} (within : w.Within parts w') (node : Part.node ∉ parts)
    (shelves : ∀ kind ∈ [Kind.account, .key, .contract], Part.shelf kind ∉ parts) :
    w.Tends n address account kept w' := by
  have accounts : w'.store.accounts = w.store.accounts := within.shelf .account (shelves _ (by decide))
  have keys : w'.store.keys = w.store.keys := within.shelf .key (shelves _ (by decide))
  have contracts : w'.store.contracts = w.store.contracts := within.shelf .contract (shelves _ (by decide))
  intro sound
  refine ⟨⟨?_, accounts ▸ sound.record, keys ▸ sound.keys⟩, fun _ => ?_⟩
  swap
  · exact ⟨.of_table accounts, fun _ _ => .of_table keys, fun _ _ => .of_table contracts⟩
  rw [within.node node]
  exact sound.accounts

theorem counted (w : World) : w.Tends n address account kept w.counted :=
  of_within (.counted [] w) (by simp) (by simp)

end World.Tends

/-! ### Records of accounts of the node -/

namespace Chain.Node.Hosts
variable (hosts : n.Hosts address account) {other : String} {b : Chain.Account} (found : n.accounts.get? other = some b)
include hosts

theorem prefixed : Address.prefixed address = address := by
  rw [← hosts.keyed.accounts _ _ hosts.found, Address.prefixed_prefixed]

theorem account_address : Address.prefixed account.address = address := hosts.keyed.accounts _ _ hosts.found

include found

theorem other_address : Address.prefixed b.address = other := hosts.keyed.accounts _ _ found

theorem other_prefixed : Address.prefixed other = other := by
  rw [← hosts.other_address found, Address.prefixed_prefixed]

theorem eq_of_address (same : other = address) : b = account := by
  subst same
  exact Option.some.inj (found.symm.trans hosts.found)

/-- A record of the account's address is that of the account. -/
theorem account_of_id (same : (Indexed.Account.ofChain b).id = address) : b = account :=
  hosts.eq_of_address found ((hosts.other_address found).symm.trans same)

theorem contract_of_id {name : String} {r c : Indexed.Contract} (hr : Indexed.Contract.ofChain? b name = some r)
    (hc : c ∈ ChainIndex.Account.contracts account) (same : r.id = c.id) : r = c := by
  by_cases own : other = address
  · obtain rfl := hosts.eq_of_address found own
    obtain ⟨name', -, hc⟩ := List.mem_filterMap.mp hc
    obtain ⟨code, -, rfl⟩ := Option.map_eq_some_iff.mp hr
    obtain ⟨code', -, rfl⟩ := Option.map_eq_some_iff.mp hc
    obtain rfl : name = name' := (String.append_right_inj _).mp same
    rw [hr] at hc
    exact Option.some.inj hc
  · exact absurd same (hosts.contracts other b found own name r hr c hc)

theorem belongs_ofChain {k : Chain.AccountKey} (hk : k ∈ b.keys) (observedAt : Timestamp) :
    (AccountKey.ofChain other k observedAt).Belongs address account := by
  by_cases own : other = address
  · obtain rfl := hosts.eq_of_address found own
    subst own
    have shows : KeySync.Shows other k (AccountKey.ofChain other k observedAt) :=
      KeySync.shows_ofChain (hosts.other_prefixed found) k
    refine ⟨fun _ => ⟨k, hk, shows⟩, fun c hc same => ?_⟩
    obtain rfl := List.inj_on_of_nodup_map hosts.publicKeys hk hc (KeySync.keyId_inj same)
    exact shows
  · refine ⟨fun same => absurd ((hosts.other_prefixed found).symm.trans same) own, fun c hc same => ?_⟩
    exact absurd same (hosts.keys other b found own k hk c hc)

end Chain.Node.Hosts

theorem Indexed.AccountKey.Belongs.merge {k : AccountKey} (h : k.Belongs address account) (stored : AccountKey) :
    (k.merge stored).Belongs address account := by
  have shows {c : Chain.AccountKey} (h : Shows address c k) : Shows address c (k.merge stored) :=
    ⟨h.id, h.address, h.index, h.publicKey, h.signAlgo, h.hashAlgo, h.weight, h.sequenceNumber, h.revoked⟩
  exact ⟨fun own => (h.own own).imp fun _ => And.imp_right shows, fun c hc same => shows (h.named c hc same)⟩

/-! ### What is stored -/

namespace World.Sound
variable {w : World} (sound : w.Sound n address account) {other : String}
include sound

theorem belongs {s : AccountKey} (hs : s ∈ storedKeys other w.store.keys) : s.Belongs address account := by
  obtain ⟨⟨id, stored⟩, -⟩ := KeySync.mem_storedKeys.mp hs
  exact (sound.keys id s stored).2

variable (hosts : n.Hosts address account)
include hosts

theorem suits : KeySync.Suits address account.keys w.store.keys where
  own id k hk := (sound.keys id k hk).1
  named id k hk own := by
    obtain ⟨c, -, shows⟩ := (sound.keys id k hk).2.own own
    rw [← (sound.keys id k hk).1, shows.id, shows.publicKey]
  slots id id' k k' hk hk' own own' same := by
    obtain ⟨c, hc, shows⟩ := (sound.keys id k hk).2.own own
    obtain ⟨c', hc', shows'⟩ := (sound.keys id' k' hk').2.own own'
    obtain rfl := List.inj_on_of_nodup_map hosts.indexes hc hc' (shows.index.symm.trans (same.trans shows'.index))
    rw [← (sound.keys id k hk).1, ← (sound.keys id' k' hk').1, shows.id, shows'.id]
  indexes := hosts.indexes
  publicKeys := hosts.publicKeys

/-- A synchronisation deletes no key of the account, for those are at their places. -/
theorem spared_of_delete {b : Chain.Account} (found : n.accounts.get? other = some b) {observedAt : Timestamp}
    {d : AccountKey} (deleted : d ∈ (KeySync.delta other b.keys w.store.keys observedAt).delete) :
    ∀ c ∈ account.keys, d.id ≠ keyId address c.publicKey := by
  intro c hc same
  by_cases own : other = address
  · obtain rfl := hosts.eq_of_address found own
    subst own
    obtain ⟨hd, -, out⟩ := (KeySync.mem_delete b.keys observedAt hosts.prefixed (sound.suits hosts) d).mp deleted
    exact out c hc ((sound.belongs hd).named c hc same).index.symm
  · have hs := KeySync.stored_of_delete deleted
    exact own ((KeySync.mem_storedKeys.mp hs).2.symm.trans ((sound.belongs hs).named c hc same).address)

/-- A synchronisation replaces a key of the account by itself. -/
theorem spared_of_replace {u : AccountKey} (hu : u.Belongs address account) (own : u.address = other) :
    ∀ c ∈ account.keys, idAt? (storedKeys other w.store.keys) u.index = some (keyId address c.publicKey) →
      u.id = keyId address c.publicKey := by
  intro c hc place
  obtain ⟨s, hs, index, same⟩ := KeySync.stored_of_idAt? place
  have shows := (sound.belongs hs).named c hc same
  obtain ⟨c', hc', shows'⟩ := hu.own (own.trans ((KeySync.mem_storedKeys.mp hs).2.symm.trans shows.address))
  have places : c.index = c'.index := by
    rw [← shows.index, ← shows'.index]
    exact index
  obtain rfl := List.inj_on_of_nodup_map hosts.indexes hc hc' places
  exact shows'.id

end World.Sound

/-! ### Writes -/

namespace World.Tends

theorem insertKey (w : World) {k : AccountKey} (hk : k.Belongs address account) :
    w.Tends n address account kept (w.shelve (w.store.keys.insert k.id k)) := by
  refine fun sound => ⟨⟨sound.accounts, sound.record, sound.keys.insert ⟨rfl, hk⟩⟩, fun _ => ⟨.of_table rfl, ?_, ?_⟩⟩
  · exact fun c hc => World.Keeps.insert w (hk.named c hc)
  · exact fun _ _ => .of_table rfl

theorem upsertKey {k : AccountKey} (hk : k.Belongs address account) :
    Leads (World.Tends n address account kept) (Act.upsert k).run :=
  Act.leads_upsert counted fun w => insertKey w hk

theorem updateKey {k : AccountKey} (hk : k.Belongs address account) :
    Leads (World.Tends n address account kept) (Act.update AccountKey k.id k).run :=
  Act.leads_update counted fun w _ _ => insertKey w hk

/-- A key may be deleted if it is none of the account's. -/
theorem deleteKey {id : String} (spared : kept → ∀ c ∈ account.keys, id ≠ keyId address c.publicKey) :
    Leads (World.Tends n address account kept) (Act.delete AccountKey id).run := by
  refine Act.leads_delete counted fun w sound => ⟨⟨sound.accounts, sound.record, sound.keys.erase id⟩, fun hk => ?_⟩
  exact ⟨.of_table rfl, fun c hc => World.Keeps.erase w (spared hk c hc), fun _ _ => .of_table rfl⟩

theorem deleteContract {id : String} (spared : kept → ∀ c ∈ Account.contracts account, id ≠ c.id) :
    Leads (World.Tends n address account kept) (Act.delete Indexed.Contract id).run := by
  refine Act.leads_delete counted fun w sound => ⟨⟨sound.accounts, sound.record, sound.keys⟩, fun hk => ?_⟩
  exact ⟨.of_table rfl, fun _ _ => .of_table rfl, fun c hc => World.Keeps.erase w (spared hk c hc)⟩

/-- A key is written over the one in its place, which is none of the account's or has the same id. -/
theorem replaceKey {stored : List AccountKey} {k : AccountKey} (hk : k.Belongs address account)
    (spared : ∀ c ∈ account.keys, idAt? stored k.index = some (keyId address c.publicKey) →
      k.id = keyId address c.publicKey) :
    Leads (World.Tends n address account kept) (KeySync.replace stored k).run := by
  refine Uses.leads (fun h => h) (KeySync.uses_replace (updateKey hk).uses ?_ (upsertKey hk).uses)
  intro previous place moved
  exact (deleteKey fun _ c hc same => moved (same.trans (spared c hc (same ▸ place)).symm)).uses

variable (hosts : n.Hosts address account) {other : String} {b : Chain.Account} (found : n.accounts.get? other = some b)
include hosts found

theorem upsertAccount : Leads (World.Tends n address account kept) (Act.upsert (Indexed.Account.ofChain b)).run := by
  refine Act.leads_upsert counted fun w sound => ⟨⟨sound.accounts, fun r hr => ?_, sound.keys⟩, fun _ => ⟨?_, ?_, ?_⟩⟩
  · by_cases same : address = (Indexed.Account.ofChain b).id
    · obtain rfl := hosts.account_of_id found same.symm
      rw [same] at hr
      exact (Option.some.inj ((Table.get?_insert_self _ _ _).symm.trans hr)).symm
    · exact sound.record r ((Table.get?_insert_of_ne _ same _).symm.trans hr)
  · exact World.Keeps.insert w fun same => congrArg _ (hosts.account_of_id found same)
  · exact fun _ _ => .of_table rfl
  · exact fun _ _ => .of_table rfl

theorem upsertContract {name : String} {r : Indexed.Contract} (hr : Indexed.Contract.ofChain? b name = some r) :
    Leads (World.Tends n address account kept) (Act.upsert r).run := by
  refine Act.leads_upsert counted fun w sound => ⟨⟨sound.accounts, sound.record, sound.keys⟩, fun _ => ⟨?_, ?_, ?_⟩⟩
  · exact .of_table rfl
  · exact fun _ _ => .of_table rfl
  · exact fun c hc => World.Keeps.insert w (hosts.contract_of_id found hr hc)

/-! ### Accounts that were found -/

theorem sync (observedAt : Timestamp) :
    Leads (World.Tends n address account kept) (KeySync.sync other b observedAt).run := by
  intro w sound
  refine KeySync.leads_sync counted (Uses.leads id (Diff.uses_apply ?_ ?_ ?_)) sound
  · intro k created
    obtain ⟨reported, hk, rfl⟩ := KeySync.reported_of_create created
    exact (upsertKey (hosts.belongs_ofChain found hk observedAt)).uses
  · intro u updated
    obtain ⟨reported, hk, old, -, -, rfl⟩ := KeySync.merged_of_update updated
    have belongs := (hosts.belongs_ofChain found hk observedAt).merge old
    exact (replaceKey belongs (sound.spared_of_replace hosts belongs (hosts.other_prefixed found))).uses
  · exact fun d deleted => (deleteKey fun _ => sound.spared_of_delete hosts found deleted).uses

theorem store (observedAt : Timestamp) :
    Leads (World.Tends n address account kept) (Account.store observedAt b).run := by
  refine .seq (upsertAccount hosts found) fun _ => Uses.leads (fun h => h) (Account.uses_storeParts ?_ fun c hc => ?_)
  · rw [hosts.other_address found]
    exact (sync hosts found observedAt).uses
  · obtain ⟨name, -, hc⟩ := List.mem_filterMap.mp hc
    exact (upsertContract hosts found hc).uses

omit found in
theorem storeKey (publicKey : String) (observedAt : Timestamp)
    (found : n.accounts.get? (Address.prefixed other) = some b) :
    Leads (World.Tends n address account kept) (Account.storeKey other publicKey observedAt b).run := by
  unfold Account.storeKey
  split
  · exact .throw _
  · next k reported =>
    have belongs := hosts.belongs_ofChain found (List.mem_of_find?_eq_some reported) observedAt
    rw [ofChain_prefixed] at belongs
    have read : Leads (World.Tends n address account kept)
        (Act.find AccountKey (AccountKey.ofChain other k observedAt).id).run :=
      Act.leads_attempt counted fun w => refl_of _ w
    refine .seq read fun stored => ?_
    split
    · next old => exact upsertKey (belongs.merge old)
    · exact upsertKey belongs

end World.Tends

/-! ### Effects -/

/-- An event of this meaning removes no key and no contract of the account. -/
def Meaning.Spares (address : String) (account : Chain.Account) (m : Meaning) : Prop :=
  (∀ c ∈ account.keys, ¬ m.erases .key (keyId address c.publicKey)) ∧
    ∀ c ∈ Account.contracts account, ¬ m.erases .contract c.id

namespace World.Tends

/-- What is done with an account that was looked up may rely on its being the node's. -/
theorem found {α : Type} {other : String} {work : Chain.Account → Act α}
    (h : ∀ b, n.accounts.get? (Address.prefixed other) = some b →
      Leads (World.Tends n address account kept) (work b).run) :
    Leads (World.Tends n address account kept) (Account.look other >>= work).run := by
  intro w sound
  rcases Account.look_cases other w with ⟨e, failed⟩ | ⟨b, hb, looked⟩
  · rw [Attempt.run_bind_of_error failed]
    exact counted w sound
  · rw [Attempt.run_bind_of_ok looked]
    rw [sound.accounts] at hb
    exact trans_of (World.Tends n address account kept) (counted w) (h b hb w.counted) sound

variable (hosts : n.Hosts address account)
include hosts

theorem index (other : String) (observedAt : Timestamp) :
    Leads (World.Tends n address account kept) (Account.index other observedAt).run :=
  found fun _ hb => store hosts hb observedAt

theorem indexKey (other publicKey : String) (observedAt : Timestamp) :
    Leads (World.Tends n address account kept) (Account.indexKey other publicKey observedAt).run :=
  found fun _ hb => storeKey hosts publicKey observedAt hb

theorem indexContract (other name : String) :
    Leads (World.Tends n address account kept) (Account.indexContract other name).run := by
  refine found fun b hb => ?_
  split
  · exact .throw _
  · next r hr => exact upsertContract hosts hb hr

theorem refresh (other : String) : Leads (World.Tends n address account kept) (Account.refresh other).run := by
  intro w sound
  rcases Account.look_cases other w with ⟨e, failed⟩ | ⟨b, hb, found⟩
  · rw [Account.run_refresh_of_error failed]
    exact counted w sound
  · rw [Account.run_refresh_of_ok found]
    rw [sound.accounts] at hb
    exact trans_of (World.Tends n address account kept) (counted w) (upsertAccount hosts hb w.counted) sound

theorem apply (m : Meaning) (observedAt : Timestamp) (spared : kept → m.Spares address account) :
    Leads (World.Tends n address account kept) (m.apply observedAt).run := by
  cases m with
  | accountCreated other => exact index hosts other observedAt
  | keyAdded other publicKey => exact indexKey hosts other publicKey observedAt
  | keyRemoved other publicKey => exact deleteKey fun hk c hc same => (spared hk).1 c hc ⟨rfl, same.symm⟩
  | contractAdded other name => exact indexContract hosts other name
  | contractUpdated other name => exact indexContract hosts other name
  | contractRemoved other name => exact deleteContract fun hk c hc same => (spared hk).2 c hc ⟨rfl, same.symm⟩
  | tokensWithdrawn source =>
    simp only [Meaning.apply]
    split
    · exact .ok _
    · exact refresh hosts _
  | tokensDeposited destination =>
    cases destination with
    | none => exact .ok _
    | some other => exact refresh hosts other
  | unrecognized type => exact .ok _

theorem dispatch {classifier : Classifier} (observedAt : Timestamp) {e : Chain.Event}
    (spared : kept → ∀ m, classifier.classify e = .ok m → m.Spares address account) :
    Leads (World.Tends n address account kept) (Meaning.dispatch classifier observedAt e).run := by
  intro w
  cases meant : classifier.classify e with
  | error wrong =>
    rw [Meaning.run_dispatch_of_error meant]
    exact refl_of _ w
  | ok m =>
    rw [Meaning.run_dispatch_of_ok meant]
    exact apply hosts m observedAt (fun hk => spared hk m meant) w

end World.Tends

end ChainIndex
