import ChainIndex.Proofs.Climb
import ChainIndex.Proofs.KeyConvergence
import ChainIndex.Proofs.TickCalls
import Mathlib.Logic.Relation

/-!
# One key at each place

Keys are stored in two ways: indexing an account reconciles all of its keys with those that are stored,
place by place, and an added key is written alone, under its id. Both write a key as the chain reports
it. If the chain gives a place of an account to one public key for good, then a stored key has the public
key of its place, so that its place determines its id, and no two keys are stored for one place; that
holds whatever calls fail, also in the middle of a reconciliation.
-/

set_option autoImplicit false

namespace ChainIndex

open Attempt (Leads Uses)

/-- The accounts of a node have at each place the public key that is assigned to it. Addresses carry
their prefix. -/
def Chain.Node.Assigns (assigned : String → UInt32 → String) (n : Chain.Node) : Prop :=
  n.accounts.All fun address a => ∀ k ∈ a.keys, k.publicKey = assigned address k.index

/-- A canonical key with the public key that is assigned to its place. -/
structure Indexed.AccountKey.Placed (assigned : String → UInt32 → String) (k : AccountKey) : Prop where
  named : k.Named
  publicKey : k.publicKey = assigned k.address k.index

/-- Every key is stored under its own id, with the public key that is assigned to its place. -/
def Store.KeysPlaced (assigned : String → UInt32 → String) (s : Store) : Prop :=
  s.keys.All fun id k => k.id = id ∧ k.Placed assigned

/-- From `w` to `w'` keys stay at their places, if the node has its keys there. -/
structure World.Places (assigned : String → UInt32 → String) (w w' : World) : Prop where
  node : w'.node = w.node
  keys : w.node.Keyed → w.node.Assigns assigned → w.store.KeysPlaced assigned → w'.store.KeysPlaced assigned

variable {assigned : String → UInt32 → String}

namespace World.Places

instance : IsPreorder World (World.Places assigned) where
  refl _ := ⟨rfl, fun _ _ h => h⟩
  trans _ _ _ h₁ h₂ := by
    refine ⟨h₂.node.trans h₁.node, fun keyed assigns placed => h₂.keys ?_ ?_ (h₁.keys keyed assigns placed)⟩
    · rwa [h₁.node]
    · rwa [h₁.node]

/-- Work that leaves the node and the index of keys alone leaves keys at their places. -/
theorem of_only {parts : List Part} {α : Type} {work : StateM World α} (only : Only parts work)
    (node : Part.node ∉ parts) (keys : Part.shelf .key ∉ parts) : Leads (World.Places assigned) work := by
  intro w
  have same : (work.run w).2.store.keys = w.store.keys := (only w).shelf .key keys
  refine ⟨(only w).node node, fun _ _ placed => ?_⟩
  unfold Store.KeysPlaced
  rwa [same]

theorem counted (w : World) : w.Places assigned w.counted := ⟨rfl, fun _ _ h => h⟩

end World.Places

/-! ### Effects -/

theorem EffectCall.places {α : Type} {work : StateM World α}
    (call : EffectCall (Indexed.AccountKey.Placed assigned) α work) : Leads (World.Places assigned) work := by
  have counted (w : World) : w.Places assigned w.counted := .counted w
  have all (w : World) : w.Places assigned w := refl_of _ w
  cases call with
  | look address => exact Act.leads_attempt counted all
  | keys => exact Act.leads_attempt counted all
  | findKey id => exact Act.leads_attempt counted all
  | upsertAccount a => exact Act.leads_upsert counted fun w => ⟨rfl, fun _ _ placed => placed⟩
  | upsertKey hk => exact Act.leads_upsert counted fun w => ⟨rfl, fun _ _ placed => placed.insert ⟨rfl, hk⟩⟩
  | updateKey hk => exact Act.leads_update counted fun w _ _ => ⟨rfl, fun _ _ placed => placed.insert ⟨rfl, hk⟩⟩
  | deleteKey id => exact Act.leads_delete counted fun w => ⟨rfl, fun _ _ placed => placed.erase id⟩
  | upsertContract hc => exact Act.leads_upsert counted fun w => ⟨rfl, fun _ _ placed => placed⟩
  | deleteContract id => exact Act.leads_delete counted fun w => ⟨rfl, fun _ _ placed => placed⟩

/-- A look at an account fails, or finds it under its prefixed address. -/
theorem Account.look_cases (address : String) (w : World) :
    (∃ e, (look address).run.run w = (.error e, w.counted)) ∨
      ∃ a, w.node.accounts.get? (Address.prefixed address) = some a ∧
        (look address).run.run w = (.ok a, w.counted) := by
  rcases Act.ask_cases (.account address) (Chain.Node.account address) w with ⟨e, -, run⟩ | ⟨-, run⟩
  · exact .inl ⟨e, run⟩
  · cases found : w.node.account address with
    | error e => exact .inl ⟨e, by rw [look, run, found]⟩
    | ok a => exact .inr ⟨a, Chain.Node.require_eq_ok found, by rw [look, run, found]⟩

namespace World.Places

/-- What is done with an account that was found may rely on the account's keys being at their places. -/
theorem found {address : String} {work : Chain.Account → Act Unit}
    (only : Only Only.effects (Account.look address >>= work).run)
    (h : ∀ a : Chain.Account, Address.prefixed a.address = Address.prefixed address →
      (∀ k ∈ a.keys, k.publicKey = assigned (Address.prefixed address) k.index) →
      Leads (World.Places assigned) (work a).run) :
    Leads (World.Places assigned) (Account.look address >>= work).run := by
  intro w
  refine ⟨(only w).node (by decide), fun keyed assigns placed => ?_⟩
  rcases Account.look_cases address w with ⟨e, run⟩ | ⟨a, ha, run⟩
  · show Store.KeysPlaced assigned ((Account.look address >>= work).run.run w).2.store
    rw [Attempt.run_bind_of_error run]
    exact placed
  · show Store.KeysPlaced assigned ((Account.look address >>= work).run.run w).2.store
    rw [Attempt.run_bind_of_ok run]
    exact (h a (keyed.accounts _ a ha) (assigns _ a ha) w.counted).keys keyed assigns placed

theorem index (address : String) (observedAt : Timestamp) :
    Leads (World.Places assigned) (Account.index address observedAt).run := by
  rw [Account.index_eq]
  refine found (Only.index address observedAt) fun a own places => ?_
  refine (Effects.store (fun k stored h => ⟨h.named.merge stored, h.publicKey⟩) fun k hk => ?_).leads EffectCall.places
  refine ⟨.ofChain _ k observedAt, ?_⟩
  rw [show (Indexed.AccountKey.ofChain _ k observedAt).address = _ from Address.prefixed_prefixed _, own]
  exact places k hk

theorem indexKey (address publicKey : String) (observedAt : Timestamp) :
    Leads (World.Places assigned) (Account.indexKey address publicKey observedAt).run := by
  rw [Account.indexKey_eq]
  refine found ((Effects.indexKey address publicKey observedAt).leads Only.effectCall) fun a own places => ?_
  refine (Effects.storeKey (fun k stored h => ⟨h.named.merge stored, h.publicKey⟩) publicKey fun k hk => ?_).leads
    EffectCall.places
  exact ⟨.ofChain _ k observedAt, places k hk⟩

theorem dispatch (classifier : Classifier) (observedAt : Timestamp) (e : Chain.Event) :
    Leads (World.Places assigned) (Meaning.dispatch classifier observedAt e).run := by
  refine Uses.leads id (Effects.dispatched (fun m => Effects.effect ?_ ?_ ?_ m) classifier e)
  · exact fun call => (call.mono fun _ => False.elim).places
  · exact fun address => (index address observedAt).uses
  · exact fun address publicKey => (indexKey address publicKey observedAt).uses

theorem tickCall {setup : Setup} (scans : Tick.ScansStorageOnly setup) {α : Type} {work : StateM World α}
    (call : TickCall setup α work) : Leads (World.Places assigned) work :=
  call.confined scans (fun only => of_only only (by decide) (by decide)) (dispatch setup.classifier) index
    fun id => of_only (.spawn id) (by simp) (by simp)

end World.Places

/-! ### Runs -/

/-- What is done to the index of keys, and what happens around it as long as the node has its keys at
their places. A tick is made as a whole, or in pieces that anything may come between. -/
inductive KeyStep (assigned : String → UInt32 → String) : World → World → Prop
  | tick {setup : Setup} (scans : Tick.ScansStorageOnly setup) (w : World) :
      KeyStep assigned w ((Tick.run setup).run.run w).2
  | piece {setup : Setup} (scans : Tick.ScansStorageOnly setup) (p : Piece) (w : World) :
      KeyStep assigned w (p.apply setup w)
  | bootstrap (w : World) : KeyStep assigned w (WellKnown.run.run w).2
  | dispatch (classifier : Classifier) (observedAt : Timestamp) (e : Chain.Event) (w : World) :
      KeyStep assigned w ((Meaning.dispatch classifier observedAt e).run.run w).2
  /-- The chain and everything else change, but not the index of keys. -/
  | around {w w' : World} (keyed : w'.node.Keyed) (assigns : w'.node.Assigns assigned)
      (same : w'.store.keys = w.store.keys) : KeyStep assigned w w'

/-- The keys of a world are at their places, in the node and in the store. -/
structure World.Settled (assigned : String → UInt32 → String) (w : World) : Prop where
  keyed : w.node.Keyed
  assigns : w.node.Assigns assigned
  placed : w.store.KeysPlaced assigned

theorem World.Places.settled {w w' : World} (h : w.Places assigned w') (settled : w.Settled assigned) :
    w'.Settled assigned where
  keyed := h.node ▸ settled.keyed
  assigns := h.node ▸ settled.assigns
  placed := h.keys settled.keyed settled.assigns settled.placed

theorem KeyStep.settled {w w' : World} (step : KeyStep assigned w w') (settled : w.Settled assigned) :
    w'.Settled assigned := by
  cases step with
  | tick scans => exact ((TickCall.tick _).leads (World.Places.tickCall scans) w).settled settled
  | piece scans p =>
    obtain ⟨α, work, uses, same⟩ := TickCall.piece _ p w
    rw [same]
    exact (uses.leads (World.Places.tickCall scans) w).settled settled
  | bootstrap =>
    have scans : Tick.ScansStorageOnly .bare := Setup.bare_scans
    exact ((TickCall.wellKnown .bare).leads (World.Places.tickCall scans) w).settled settled
  | dispatch classifier observedAt e => exact (World.Places.dispatch classifier observedAt e w).settled settled
  | around keyed assigns same =>
    refine ⟨keyed, assigns, ?_⟩
    unfold Store.KeysPlaced
    rw [same]
    exact settled.placed

/-- Keys at one place have one id. -/
theorem Store.KeysPlaced.unique {s : Store} (h : s.KeysPlaced assigned) {id id' : String} {k k' : Indexed.AccountKey}
    (hk : s.keys.get? id = some k) (hk' : s.keys.get? id' = some k') (address : k.address = k'.address)
    (index : k.index = k'.index) : id = id' := by
  obtain ⟨own, placed⟩ := h id k hk
  obtain ⟨own', placed'⟩ := h id' k' hk'
  rw [← own, ← own', placed.named.named, placed'.named.named, placed.publicKey, placed'.publicKey, address, index]

/-- From an empty index of keys on, every stored key has the public key that the chain assigns to its
place, and no two stored keys of one address have the same index. -/
theorem Store.keys_placed_of_steps {w w' : World} (run : Relation.ReflTransGen (KeyStep assigned) w w')
    (empty : w.store.keys = .empty) (keyed : w.node.Keyed) (assigns : w.node.Assigns assigned) :
    (∀ id k, w'.store.keys.get? id = some k → k.publicKey = assigned k.address k.index) ∧
      ∀ id id' k k', w'.store.keys.get? id = some k → w'.store.keys.get? id' = some k' →
        k.address = k'.address → k.index = k'.index → id = id' := by
  have settled : w'.Settled assigned := by
    induction run with
    | refl =>
      refine ⟨keyed, assigns, ?_⟩
      unfold KeysPlaced
      rw [empty]
      exact Table.all_empty
    | tail _ step ih => exact step.settled ih
  exact ⟨fun id k hk => (settled.placed id k hk).2.publicKey, fun _ _ _ _ hk hk' => settled.placed.unique hk hk'⟩

/-! ### Two keys -/

/-- The chain may change an account at which keys keep their places. -/
theorem KeyStep.account {w : World} (settled : w.Settled assigned) {a : Chain.Account}
    (places : ∀ k ∈ a.keys, k.publicKey = assigned (Address.prefixed a.address) k.index) :
    KeyStep assigned w { w with node := w.node.putAccount a } :=
  .around (settled.keyed.change (.account a)) (settled.assigns.insert places) rfl

/-- An event of the account `0x01`. -/
def Chain.Event.ofAccount (type : String) (fields : List (String × Json)) : Chain.Event :=
  ⟨type, "", "", 0, 0, .ofJson (.object (("address", .string "0x01") :: fields))⟩

/-- The account `0x01` has the key `aa`. -/
def firstKey : World := .start (Chain.Node.empty.putAccount (Account.holding [(0, "aa")])) .empty .epoch

def firstKeyIndexed : World :=
  ((Meaning.dispatch Setup.bare.classifier .epoch (.ofAccount "flow.AccountCreated" [])).run.run firstKey).2

/-- The key `aa` has vanished from the chain, and the key `bb` is there. -/
def secondKey : World :=
  { firstKeyIndexed with node := firstKeyIndexed.node.putAccount (Account.holding [(1, "bb")]) }

def secondKeyAdded : Chain.Event :=
  .ofAccount "flow.AccountKeyAdded" [("publicKey", .array [.number (.natural 187)])]

def bothKeys : World := ((Meaning.dispatch Setup.bare.classifier .epoch secondKeyAdded).run.run secondKey).2

theorem keys_placed_bothKeys :
    bothKeys.store.keys.keys = ["0x01.aa", "0x01.bb"] ∧
      ∀ id k, bothKeys.store.keys.get? id = some k → k.publicKey = if k.index = 0 then "aa" else "bb" := by
  let assigned : String → UInt32 → String := fun _ index => if index = 0 then "aa" else "bb"
  have keyed : firstKey.node.Keyed := Chain.Node.keyed_empty.change (.account _)
  have assigns : firstKey.node.Assigns assigned := Table.all_empty.insert (by decide)
  have indexed : KeyStep assigned firstKey firstKeyIndexed := .dispatch _ _ _ firstKey
  have settled := indexed.settled ⟨keyed, assigns, Table.all_empty⟩
  have reported : KeyStep assigned firstKeyIndexed secondKey := .account settled (by decide)
  have added : KeyStep assigned secondKey bothKeys := .dispatch _ _ secondKeyAdded secondKey
  have run := ((Relation.ReflTransGen.single indexed).tail reported).tail added
  exact ⟨by decide +kernel, (Store.keys_placed_of_steps run rfl keyed assigns).1⟩

end ChainIndex
