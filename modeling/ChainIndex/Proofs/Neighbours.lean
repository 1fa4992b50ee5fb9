import ChainIndex.Proofs.Confluence
import ChainIndex.Proofs.KeptKeys

/-!
# An event touches its own account only

The records that an effect writes are those of the account of its event, and the ids that it deletes start
with that account's address: they are computed from the event, or they are ids of stored keys of the account,
which are canonical. In front of the first dot of an id stands the address of its record, so no record of
another account is touched, whatever calls fail.
-/

set_option autoImplicit false

namespace ChainIndex

open Attempt (Leads Uses)
open Indexed (AccountKey keyId contractId)

/-! ### Changes under some ids -/

namespace Table
variable {κ α : Type} [Key κ] {ids : κ → Prop} {good : α → Prop} {s t u : Table κ α}

/-- From `s` to `t` the entries of other ids stayed, and what these ids are bound to now is good if it is new. -/
def Confined (ids : κ → Prop) (good : α → Prop) (s t : Table κ α) : Prop :=
  ∀ id, t.get? id = s.get? id ∨ ids id ∧ ∀ a, t.get? id = some a → good a

namespace Confined

theorem refl (t : Table κ α) : Confined ids good t t := fun _ => .inl rfl

theorem trans (h : Confined ids good s t) (h' : Confined ids good t u) : Confined ids good s u := by
  intro id
  rcases h' id with same | changed
  · rw [same]
    exact h id
  · exact .inr changed

theorem insert (t : Table κ α) {id : κ} {a : α} (hid : ids id) (ha : good a) : Confined ids good t (t.insert id a) := by
  classical
  intro k
  by_cases same : k = id
  · subst same
    refine .inr ⟨hid, fun b hb => ?_⟩
    rw [get?_insert_self] at hb
    exact Option.some.inj hb ▸ ha
  · exact .inl (get?_insert_of_ne t same a)

theorem erase (t : Table κ α) {id : κ} (hid : ids id) : Confined ids good t (t.erase id) := by
  classical
  intro k
  by_cases same : k = id
  · subst same
    refine .inr ⟨hid, fun b hb => ?_⟩
    rw [get?_erase_self] at hb
    cases hb
  · exact .inl (get?_erase_of_ne t same)

end Confined

end Table

/-- The ids of the keys and the contracts of an account. -/
def Indexed.Under (address id : String) : Prop := ∃ name, id = address ++ "." ++ name

open Indexed (Under)

/-- From `w` to `w'` only the records of an account changed. -/
structure World.Confined (address : String) (w w' : World) : Prop where
  accounts : Table.Confined (· = address) (fun _ => True) w.store.accounts w'.store.accounts
  keys : Table.Confined (Under address) (fun k => k.address = address) w.store.keys w'.store.keys
  contracts : Table.Confined (Under address) (fun c => c.address = address) w.store.contracts w'.store.contracts

namespace World.Confined
variable {address : String}

theorem of_store {w w' : World} (same : w'.store = w.store) : w.Confined address w' :=
  ⟨same ▸ .refl _, same ▸ .refl _, same ▸ .refl _⟩

instance : IsPreorder World (World.Confined address) where
  refl _ := of_store rfl
  trans _ _ _ h₁ h₂ := ⟨h₁.accounts.trans h₂.accounts, h₁.keys.trans h₂.keys, h₁.contracts.trans h₂.contracts⟩

theorem counted (w : World) : w.Confined address w.counted := of_store rfl

/-! ### Writes -/

theorem upsertAccount {a : Chain.Account} (own : Address.prefixed a.address = address) :
    Leads (World.Confined address) (Act.upsert (Indexed.Account.ofChain a)).run :=
  Act.leads_upsert counted fun _ => ⟨.insert _ own trivial, .refl _, .refl _⟩

section
variable {k : AccountKey} (id : Under address k.id) (own : k.address = address)
include id own

theorem upsertKey : Leads (World.Confined address) (Act.upsert k).run :=
  Act.leads_upsert counted fun _ => ⟨.refl _, .insert _ id own, .refl _⟩

theorem updateKey : Leads (World.Confined address) (Act.update AccountKey k.id k).run :=
  Act.leads_update counted fun _ _ _ => ⟨.refl _, .insert _ id own, .refl _⟩

end

theorem deleteKey {id : String} (under : Under address id) :
    Leads (World.Confined address) (Act.delete AccountKey id).run :=
  Act.leads_delete counted fun _ => ⟨.refl _, .erase _ under, .refl _⟩

theorem deleteContract {id : String} (under : Under address id) :
    Leads (World.Confined address) (Act.delete Indexed.Contract id).run :=
  Act.leads_delete counted fun _ => ⟨.refl _, .refl _, .erase _ under⟩

theorem upsertContract {a : Chain.Account} {name : String} {c : Indexed.Contract}
    (part : Indexed.Contract.ofChain? a name = some c) (own : Address.prefixed a.address = address) :
    Leads (World.Confined address) (Act.upsert c).run := by
  obtain ⟨code, -, rfl⟩ := Option.map_eq_some_iff.mp part
  subst own
  exact Act.leads_upsert counted fun _ => ⟨.refl _, .refl _, .insert _ ⟨name, rfl⟩ rfl⟩

/-! ### Accounts that were found -/

section
variable (hA : Address.prefixed address = address)
include hA

theorem under_keyId (publicKey : String) : Under address (keyId address publicKey) :=
  ⟨publicKey, by rw [keyId, hA]⟩

/-- The stored keys of an account have canonical ids, so a synchronisation deletes none of another account. -/
theorem sync {w : World} (canonical : KeySync.Canonical w.store.keys) (account : Chain.Account)
    (observedAt : Timestamp) : w.Confined address ((KeySync.sync address account observedAt).run.run w).2 := by
  have stored {s : AccountKey} (hs : s ∈ KeySync.storedKeys address w.store.keys) : Under address s.id := by
    obtain ⟨⟨id, found⟩, own⟩ := KeySync.mem_storedKeys.mp hs
    obtain ⟨same, named⟩ := canonical id s found
    rw [same, named, own]
    exact under_keyId hA s.publicKey
  refine KeySync.leads_sync counted (Uses.leads id (Diff.uses_apply ?_ ?_ ?_))
  · intro a created
    obtain ⟨k, -, rfl⟩ := KeySync.reported_of_create created
    exact (upsertKey (under_keyId hA k.publicKey) hA).uses
  · intro u updated
    obtain ⟨k, -, s, -, -, rfl⟩ := KeySync.merged_of_update updated
    have id : Under address (KeySync.merged address k observedAt s).id := under_keyId hA k.publicKey
    refine KeySync.uses_replace (updateKey id hA).uses (fun previous place _ => ?_) (upsertKey id hA).uses
    obtain ⟨s', hs', -, rfl⟩ := KeySync.stored_of_idAt? place
    exact (deleteKey (stored hs')).uses
  · exact fun d deleted => (deleteKey (stored (KeySync.stored_of_delete deleted))).uses

variable {a : Chain.Account} (own : Address.prefixed a.address = address)
include own

theorem store {w : World} (canonical : KeySync.Canonical w.store.keys) (observedAt : Timestamp) :
    w.Confined address ((Account.store observedAt a).run.run w).2 := by
  refine Account.leads_store (upsertAccount own w) (fun v same => ?_) fun c hc => ?_
  · rw [own]
    exact sync hA (same ▸ canonical) a observedAt
  · obtain ⟨name, part⟩ := Account.mem_contracts.mp hc
    exact upsertContract part own

omit own in
theorem storeKey (publicKey : String) (observedAt : Timestamp) :
    Leads (World.Confined address) (Account.storeKey address publicKey observedAt a).run := by
  unfold Account.storeKey
  split
  · exact .throw _
  · next k found =>
    have id : Under address (AccountKey.ofChain address k observedAt).id := under_keyId hA k.publicKey
    refine .seq (Act.leads_attempt counted fun w => of_store rfl) fun stored => ?_
    split
    · exact upsertKey id hA
    · exact upsertKey id hA

end

/-! ### Effects -/

section
variable {w : World} (keyed : w.node.Keyed) (hA : Address.prefixed address = address)
include keyed hA

/-- What is done with an account that was found is done with the account of the address. -/
theorem found {work : Chain.Account → Act Unit} (h : ∀ a : Chain.Account, Address.prefixed a.address = address →
    w.counted.Confined address ((work a).run.run w.counted).2) :
    w.Confined address ((Account.look address >>= work).run.run w).2 := by
  rcases Account.look_cases address w with ⟨e, run⟩ | ⟨a, ha, run⟩
  · rw [Attempt.run_bind_of_error run]
    exact counted w
  · rw [Attempt.run_bind_of_ok run]
    rw [hA] at ha
    exact trans_of _ (counted w) (h a (keyed.accounts address a ha))

theorem indexContract (name : String) : w.Confined address ((Account.indexContract address name).run.run w).2 := by
  refine found keyed hA fun a own => ?_
  split
  · exact of_store rfl
  · next part => exact upsertContract part own _

theorem refresh : w.Confined address ((Account.refresh address).run.run w).2 := by
  rcases Account.look_cases address w with ⟨e, failed⟩ | ⟨a, ha, looked⟩
  · rw [Account.run_refresh_of_error failed]
    exact counted w
  · rw [Account.run_refresh_of_ok looked]
    rw [hA] at ha
    exact trans_of _ (counted w) (upsertAccount (keyed.accounts address a ha) w.counted)

/-- An effect of an event touches the account of the event only. -/
theorem apply (canonical : KeySync.Canonical w.store.keys) (observedAt : Timestamp) {m : Meaning}
    (about : m.address? = some address) : w.Confined address ((m.apply observedAt).run.run w).2 := by
  cases m with
  | accountCreated other =>
    obtain rfl := Option.some.inj about
    exact found keyed hA fun a own => store (w := w.counted) hA own canonical observedAt
  | keyAdded other publicKey =>
    obtain rfl := Option.some.inj about
    exact found keyed hA fun a _ => storeKey hA publicKey observedAt _
  | keyRemoved other publicKey =>
    obtain rfl := Option.some.inj about
    exact deleteKey (under_keyId hA publicKey) w
  | contractAdded other name | contractUpdated other name =>
    obtain rfl := Option.some.inj about
    exact indexContract keyed hA name
  | contractRemoved other name =>
    obtain rfl := Option.some.inj about
    exact deleteContract (under_keyId hA name) w
  | tokensWithdrawn source =>
    obtain rfl : source = some address := about
    simp only [Meaning.apply]
    split
    · exact of_store rfl
    · exact refresh keyed hA
  | tokensDeposited destination =>
    obtain rfl : destination = some address := about
    exact refresh keyed hA
  | unrecognized type => cases about

end

end World.Confined

/-! ### Events without effect -/

/-- A prefix adds no digits. -/
theorem Address.digits_prefixed (address : String) : digits (prefixed address).toList = digits address.toList := by
  unfold prefixed
  split
  · rfl
  · next bare =>
    rw [String.toList_append]
    show address.toList = digits address.toList
    unfold digits
    split
    · next rest h =>
      rw [isPrefixed, h] at bare
      exact absurd rfl bare
    · rfl

namespace Classifier

/-- The account that an event is about, if there is one. -/
def address? (c : Classifier) (e : Chain.Event) : Option String :=
  match c.classify e with
  | .ok m => m.address?
  | .error _ => none

/-- A movement of tokens. -/
def MovesTokens (c : Classifier) (e : Chain.Event) : Prop :=
  ∃ account, c.classify e = .ok (.tokensWithdrawn account) ∨ c.classify e = .ok (.tokensDeposited account)

/-- An event that has no effect: it cannot be classified, it is not recognized, or it moves tokens to no account or
from none. A payload names no account where there is no text in its field or the text is empty; tokens also come
from no account where all its digits are zero. -/
inductive Inert (c : Classifier) (e : Chain.Event) : Prop
  | unclassified {error : Error} (h : c.classify e = .error error)
  | unrecognized {type : String} (h : c.classify e = .ok (.unrecognized type))
  | deposit {destination : Option String} (h : c.classify e = .ok (.tokensDeposited destination))
      (nowhere : ∀ s, (e.data.json.field? "to").bind Json.string? = some s → s = "")
  | withdrawal {source : Option String} (h : c.classify e = .ok (.tokensWithdrawn source))
      (null : ∀ s, (e.data.json.field? "from").bind Json.string? = some s →
        ∀ digit ∈ Address.digits s.toList, digit = '0')

theorem classify_of_address? {c : Classifier} {e : Chain.Event} {address : String}
    (h : c.address? e = some address) : ∃ m, c.classify e = .ok m ∧ m.address? = some address := by
  unfold address? at h
  split at h
  · next m classified => exact ⟨m, classified, h⟩
  · cases h

end Classifier

namespace Only

theorem refresh (address : String) : Only [.shelf .account] (Account.refresh address).run := by
  refine .seq (.result (.ask _ _)) fun looked => ?_
  split
  · exact upsert _ (by decide)
  · split
    · exact .ok _
    · exact .throw _

/-- Movements of tokens change records of accounts only. -/
theorem applyToken (observedAt : Timestamp) {m : Meaning}
    (token : ∃ account, m = .tokensWithdrawn account ∨ m = .tokensDeposited account) :
    Only [.shelf .account] (m.apply observedAt).run := by
  obtain ⟨account, rfl | rfl⟩ := token
  · simp only [Meaning.apply]
    split
    · exact .ok _
    · exact refresh _
  · cases account with
    | none => exact .ok _
    | some address => exact refresh _

end Only

namespace Meaning

variable (classifier : Classifier) (observedAt : Timestamp) (e : Chain.Event) (w : World)

/-- A dispatch does what the effect of the event does. -/
theorem dispatch_snd : ((dispatch classifier observedAt e).run.run w).2 =
    match classifier.classify e with
    | .ok m => ((m.apply observedAt).run.run w).2
    | .error _ => w := by
  cases classified : classifier.classify e with
  | error error => rw [run_dispatch_of_error classified]
  | ok m => rw [run_dispatch_of_ok classified]

variable {classifier e}

/-- An event that is about no account has no effect. -/
theorem dispatch_unaddressed (nobody : classifier.address? e = none) :
    ((dispatch classifier observedAt e).run.run w).2.store = w.store := by
  unfold Classifier.address? at nobody
  rw [dispatch_snd]
  split
  · next m classified =>
    rw [classified] at nobody
    rcases m with _ | _ | _ | _ | _ | _ | source | destination | _ <;> cases nobody <;> rfl
  · rfl

theorem dispatch_inert (inert : classifier.Inert e) :
    ((dispatch classifier observedAt e).run.run w).2.store = w.store := by
  rw [dispatch_snd]
  cases inert with
  | unclassified h => rw [h]
  | unrecognized h =>
    rw [h]
    rfl
  | @deposit destination h nowhere =>
    rw [h]
    cases destination with
    | none => rfl
    | some address =>
      obtain ⟨s, found, filled, -⟩ := Classifier.addressField?_eq_some (Classifier.names_of_classify h).symm
      exact absurd (nowhere s found) filled
  | @withdrawal source h null =>
    rw [h]
    have nobody : Address.isNull source = true := by
      cases source with
      | none => rfl
      | some address =>
        obtain ⟨s, found, -, rfl⟩ := Classifier.addressField?_eq_some (Classifier.names_of_classify h).symm
        rw [Address.isNull, Address.digits_prefixed, List.all_eq_true]
        exact fun digit hd => beq_iff_eq.mpr (null s found digit hd)
    simp only [apply, nobody, if_true]
    rfl

end Meaning

/-! ### Neighbours -/

/-- A record whose id starts with its address is left alone by changes under the ids of another account. -/
theorem Table.Confined.get?_iff {α : Type} {s t : Table String α} {address : String} {of : α → String}
    (confined : Table.Confined (Under address) (fun a => of a = address) s t) (hA : Address.prefixed address = address)
    (dotless : '.' ∉ address.toList)
    (named : s.All fun id a => Under (Address.prefixed (of a)) id ∧ '.' ∉ (of a).toList) {id : String} {a : α}
    (other : Address.prefixed (of a) ≠ address) : t.get? id = some a ↔ s.get? id = some a := by
  rcases confined id with same | ⟨⟨name, rfl⟩, own⟩
  · rw [same]
  · constructor
    · intro found
      exact absurd ((own a found).symm ▸ hA) other
    · intro found
      obtain ⟨⟨name', same⟩, dotless'⟩ := named _ a found
      exact absurd (append_dot_inj dotless (dotless_prefixed dotless') same).1.symm other

/-- From `w` to `w'` records changed that belong to this account, if there is one, and no others. -/
structure World.SparesOthers (address : Option String) (w w' : World) : Prop where
  blocks : w'.store.blocks = w.store.blocks
  transactions : w'.store.transactions = w.store.transactions
  events : w'.store.events = w.store.events
  storageItems : w'.store.storageItems = w.store.storageItems
  accounts : ∀ id, some id ≠ address → w'.store.accounts.get? id = w.store.accounts.get? id
  keys : ∀ id k, some (Address.prefixed k.address) ≠ address →
    (w'.store.keys.get? id = some k ↔ w.store.keys.get? id = some k)
  contracts : ∀ id c, some (Address.prefixed c.address) ≠ address →
    (w'.store.contracts.get? id = some c ↔ w.store.contracts.get? id = some c)

theorem World.SparesOthers.of_store {address : Option String} {w w' : World} (same : w'.store = w.store) :
    w.SparesOthers address w' := by
  constructor <;> simp [same]

/-- What is confined to an account spares the others where ids are canonical. -/
theorem World.SparesOthers.of_confined {address : String} {w w' : World} (confined : w.Confined address w')
    (within : w.Within Only.effects w') (hA : Address.prefixed address = address) (dotless : '.' ∉ address.toList)
    (keys : w.store.keys.All fun id k => Under (Address.prefixed k.address) id ∧ '.' ∉ k.address.toList)
    (contracts : w.store.contracts.All fun id c => Under (Address.prefixed c.address) id ∧ '.' ∉ c.address.toList) :
    w.SparesOthers (some address) w' where
  blocks := within.shelf .block (by decide)
  transactions := within.shelf .transaction (by decide)
  events := within.shelf .event (by decide)
  storageItems := within.shelf .storageItem (by decide)
  accounts id other := (confined.accounts id).resolve_right fun own => other (congrArg some own.1)
  keys _ _ other := confined.keys.get?_iff hA dotless keys fun same => other (congrArg some same)
  contracts _ _ other := confined.contracts.get?_iff hA dotless contracts fun same => other (congrArg some same)

namespace Meaning

/-- Whatever calls fail, an event changes no block, transaction, event or storage item, no account but its own, and
no key or contract of another account; a movement of tokens changes no key or contract at all, and an inert event
nothing. -/
theorem dispatch_sparesOthers (classifier : Classifier) (observedAt : Timestamp) (e : Chain.Event) {w : World}
    (keyed : w.node.Keyed) (keys : w.store.keys.All fun id k => k.id = id ∧ id = keyId k.address k.publicKey)
    (contracts : w.store.contracts.All fun id c => c.id = id ∧ id = contractId c.address c.name)
    (dotlessKeys : w.store.keys.All fun _ k => '.' ∉ k.address.toList)
    (dotlessContracts : w.store.contracts.All fun _ c => '.' ∉ c.address.toList)
    (dotless : ∀ address ∈ classifier.address? e, '.' ∉ address.toList) :
    w.SparesOthers (classifier.address? e) ((dispatch classifier observedAt e).run.run w).2 ∧
      (classifier.MovesTokens e → ((dispatch classifier observedAt e).run.run w).2.store.keys = w.store.keys ∧
        ((dispatch classifier observedAt e).run.run w).2.store.contracts = w.store.contracts) ∧
      (classifier.Inert e → ((dispatch classifier observedAt e).run.run w).2.store = w.store) := by
  refine ⟨?_, ?_, dispatch_inert observedAt w⟩
  · cases about : classifier.address? e with
    | none => exact .of_store (dispatch_unaddressed observedAt w about)
    | some address =>
      obtain ⟨m, classified, own⟩ := Classifier.classify_of_address? about
      have hA : Address.prefixed address = address := Classifier.prefixed_of_classify classified own
      have confined := World.Confined.apply keyed hA keys observedAt own
      have within := Only.dispatch classifier observedAt e w
      rw [dispatch_snd, classified] at within ⊢
      exact .of_confined confined within hA (dotless address about)
        (fun id k found => ⟨⟨k.publicKey, (keys id k found).2⟩, dotlessKeys id k found⟩)
        (fun id c found => ⟨⟨c.name, (contracts id c found).2⟩, dotlessContracts id c found⟩)
  · rintro ⟨account, token⟩
    rw [dispatch_snd]
    rcases token with token | token
    · rw [token]
      have within := Only.applyToken observedAt ⟨account, .inl rfl⟩ w
      exact ⟨within.shelf .key (by decide), within.shelf .contract (by decide)⟩
    · rw [token]
      have within := Only.applyToken observedAt ⟨account, .inr rfl⟩ w
      exact ⟨within.shelf .key (by decide), within.shelf .contract (by decide)⟩

/-- The index holds a key of `0x01` and one of `0x02`, and the chain reports another key in the place of the first. -/
def neighbours : World :=
  { Account.holdingWorld [] [(0, "bb")] with
    store := { Store.empty with
      keys := .ofList
        [("0x01.aa", .ofChain "0x01" ⟨0, "aa", 0, 0, 1000, 0, false⟩ .epoch),
          ("0x02.aa", .ofChain "0x02" ⟨0, "aa", 0, 0, 1000, 0, false⟩ .epoch)] } }

def firstCreated : Chain.Event := .ofAccount "flow.AccountCreated" []

/-- The first account is indexed. -/
def firstRenewed : World := ((dispatch Setup.bare.classifier .epoch firstCreated).run.run neighbours).2

theorem dispatch_sparesOthers_sameKey :
    firstRenewed.store.keys.keys = ["0x01.bb", "0x02.aa"] ∧
      firstRenewed.store.keys.get? "0x02.aa" = neighbours.store.keys.get? "0x02.aa" := by
  have about : Setup.bare.classifier.address? firstCreated = some "0x01" := by decide +kernel
  have canonical : neighbours.store.keys.All fun id k => k.id = id ∧ id = keyId k.address k.publicKey :=
    (Table.all_empty.insert (by decide)).insert (by decide)
  have dotless : neighbours.store.keys.All fun _ k => '.' ∉ k.address.toList :=
    (Table.all_empty.insert (by decide)).insert (by decide)
  have spared : neighbours.SparesOthers (some "0x01") firstRenewed := by
    rw [← about]
    refine (dispatch_sparesOthers Setup.bare.classifier .epoch firstCreated
      (Chain.Node.keyed_empty.change (.account _)) canonical Table.all_empty dotless Table.all_empty ?_).1
    intro address h
    obtain rfl := Option.some.inj (about.symm.trans h)
    decide
  obtain ⟨k, stored, other⟩ : ∃ k, neighbours.store.keys.get? "0x02.aa" = some k ∧
      some (Address.prefixed k.address) ≠ some "0x01" :=
    ⟨.ofChain "0x02" ⟨0, "aa", 0, 0, 1000, 0, false⟩ .epoch, by decide, by decide⟩
  exact ⟨by decide +kernel, ((spared.keys "0x02.aa" k other).mpr stored).trans stored.symm⟩

end Meaning

end ChainIndex
