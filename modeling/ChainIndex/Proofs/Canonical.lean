import ChainIndex.Proofs.Climb
import ChainIndex.Proofs.TickCalls
import Mathlib.Logic.Relation

/-!
# Every record stands under its canonical id

The handlers of events find, overwrite and delete records by ids that they compute anew from the fields
of an event. That reaches the right records because every record stands under its own id, the id follows
from its fields, and the addresses in them are written in one way. Every write of a canonical record
keeps a store canonical, so every piece of work does, whatever calls fail in the middle of it.
-/

set_option autoImplicit false

namespace ChainIndex

open Store (Shelved)
open Indexed (Entity)
open Attempt (Leads Uses)

/-! ### Canonical stores -/

structure Store.Canonical (s : Store) : Prop where
  blocks : s.blocks.All Indexed.Block.Canonical
  transactions : s.transactions.All Indexed.Transaction.Canonical
  events : s.events.All Indexed.Event.Canonical
  accounts : s.accounts.All Indexed.Account.Canonical
  keys : s.keys.All Indexed.AccountKey.Canonical
  contracts : s.contracts.All Indexed.Contract.Canonical
  storageItems : s.storageItems.All Indexed.StorageItem.Canonical

theorem Store.canonical_empty : Store.empty.Canonical where
  blocks := Table.all_empty
  transactions := Table.all_empty
  events := Table.all_empty
  accounts := Table.all_empty
  keys := Table.all_empty
  contracts := Table.all_empty
  storageItems := Table.all_empty

/-- In a canonical store the table of these records may be any one in which all of them are `good`. -/
class Regular (α : Type) {π : Type} [Shelved α π] (good : outParam (String → α → Prop)) : Prop where
  table {s : Store} (h : s.Canonical) : (Shelved.table s : Table String α).All good
  setTable {s : Store} {t : Table String α} (h : s.Canonical) (ht : t.All good) : (Shelved.setTable t s).Canonical

instance : Regular Indexed.Block Indexed.Block.Canonical where
  table h := h.blocks
  setTable h ht := { h with blocks := ht }

instance : Regular Indexed.Transaction Indexed.Transaction.Canonical where
  table h := h.transactions
  setTable h ht := { h with transactions := ht }

instance : Regular Indexed.Event Indexed.Event.Canonical where
  table h := h.events
  setTable h ht := { h with events := ht }

instance : Regular Indexed.Account Indexed.Account.Canonical where
  table h := h.accounts
  setTable h ht := { h with accounts := ht }

instance : Regular Indexed.AccountKey Indexed.AccountKey.Canonical where
  table h := h.keys
  setTable h ht := { h with keys := ht }

instance : Regular Indexed.Contract Indexed.Contract.Canonical where
  table h := h.contracts
  setTable h ht := { h with contracts := ht }

instance : Regular Indexed.StorageItem Indexed.StorageItem.Canonical where
  table h := h.storageItems
  setTable h ht := { h with storageItems := ht }

/-- From `w` to `w'` a canonical store stays canonical. -/
def World.Kept (w w' : World) : Prop := w.store.Canonical → w'.store.Canonical

instance : IsPreorder World World.Kept where
  refl _ h := h
  trans _ _ _ h₁ h₂ h := h₂ (h₁ h)

/-- Work that leaves a canonical store canonical. -/
abbrev Keeps {α : Type} (work : StateM World α) : Prop := Leads World.Kept work

/-- Account storage is scanned by the indexer's own scan, by one that leaves the store alone, or not at all. -/
def Tick.OwnScan (setup : Setup) : Prop :=
  ∀ scan, setup.scanStorage = some scan → scan = StorageScan.run ∨ ∀ w, (scan.run.run w).2.store = w.store

namespace Keeps
variable {α : Type}

theorem still {work : StateM World α} (h : ∀ w, (work.run w).2.store = w.store) : Keeps work := by
  intro w canonical
  rwa [h]

theorem ask (call : Call) (answer : Chain.Node → Except Error α) : Keeps (Act.ask call answer).run :=
  still (Only.still (.ask call answer : Only [] _) (by simp))

theorem read (call : Call) (answer : Store → α) : Keeps (Act.read call answer).run :=
  still (Only.still (.read call answer : Only [] _) (by simp))

/-! ### Writes -/

section
variable {π : Type} [Shelved α π] {good : String → α → Prop} [Regular α good] {a : α}

theorem create (ha : good (Entity.id a) a) : Keeps (Act.create a).run :=
  Act.leads_create (fun _ h => h) fun _ _ h => Regular.setTable h ((Regular.table h).insert ha)

theorem upsert (ha : good (Entity.id a) a) : Keeps (Act.upsert a).run :=
  Act.leads_upsert (fun _ h => h) fun _ h => Regular.setTable h ((Regular.table h).insert ha)

include good in
theorem delete (id : String) : Keeps (Act.delete α id).run :=
  Act.leads_delete (fun _ h => h) fun _ h => Regular.setTable h ((Regular.table h).erase id)

/-- An update keeps the store canonical if what it makes of a canonical record is canonical. -/
theorem update {id : String} {patch : π} (hp : ∀ b : α, good id b → good id (Entity.patch patch b)) :
    Keeps (Act.update α id patch).run :=
  Act.leads_update (fun _ h => h) fun _ b hb h =>
    Regular.setTable h ((Regular.table h).insert (hp b (Regular.table h id b hb)))

end

/-! ### All calls -/

theorem effectCall {work : StateM World α} (call : EffectCall Indexed.AccountKey.Named α work) : Keeps work := by
  cases call with
  | look address => exact ask _ _
  | keys => exact read _ _
  | findKey id => exact read _ _
  | upsertAccount a => exact upsert (.ofChain a)
  | upsertKey hk => exact upsert hk
  | updateKey hk => exact update fun _ _ => hk
  | deleteKey id => exact delete id
  | upsertContract hc => exact upsert hc
  | deleteContract id => exact delete id

theorem storeCall {work : StateM World α} (call : StoreCall True α work) : Keeps work := by
  cases call with
  | quiet h => exact still h
  | block b => exact create (.ofChain b)
  | transaction b t status interaction => exact create (.ofChain _ _ _ _)
  | event e => exact create (.ofChain e)
  | effect call => exact effectCall call
  | storageItem address i => exact upsert (.ofChain _ i)
  | status _ id s => exact update fun _ h => h.patch s

end Keeps

/-! ### Runs -/

/-- What an indexer does, and what happens around it. A tick is made as a whole, or in pieces that anything
may come between. -/
inductive Deed : World → World → Prop
  | tick {setup : Setup} (own : Tick.OwnScan setup) (w : World) : Deed w ((Tick.run setup).run.run w).2
  | piece {setup : Setup} (own : Tick.OwnScan setup) (p : Piece) (w : World) : Deed w (p.apply setup w)
  | bootstrap (w : World) : Deed w (WellKnown.run.run w).2
  | record (setup : Setup) (data : BlockData) (w : World) :
      Deed w ((Recording.run setup.parse setup.classifier data).run.run w).2
  | dispatch (classifier : Classifier) (observedAt : Timestamp) (e : Chain.Event) (w : World) :
      Deed w ((Meaning.dispatch classifier observedAt e).run.run w).2
  | index (address : String) (observedAt : Timestamp) (w : World) :
      Deed w ((Account.index address observedAt).run.run w).2
  | reindex (w : World) : Deed w (StorageScan.run.run.run w).2
  | poll (id : String) (w : World) : Deed w ((Watch.step id).run w).2
  | follow (id : String) (items : List Watch.Item) (w : World) : Deed w ((Watch.follow id items).run w).2
  /-- The node, the clock, the failing calls, the watchers and the phase change in any way. -/
  | around {w w' : World} (same : w'.store = w.store) : Deed w w'

theorem Tick.ownScan_of_none {setup : Setup} (none : setup.scanStorage = none) : OwnScan setup :=
  fun _ found => nomatch none.symm.trans found

theorem Tick.OwnScan.uses {setup : Setup} {watching : Prop} (own : OwnScan setup) (scan : Act Nat)
    (found : setup.scanStorage = some scan) : Uses (StoreCall watching) scan.run := by
  rcases own scan found with rfl | still
  · exact StoreCall.scanStorage
  · exact .piece (.quiet still)

/-- Where every call that writes the store leads to a related world every deed does. -/
theorem Deed.leads {r : World → World → Prop} [IsPreorder World r]
    (same : ∀ {w w' : World}, w'.store = w.store → r w w')
    (calls : ∀ {α work}, StoreCall True α work → Leads r work) {w w' : World} (deed : Deed w w') : r w w' := by
  have ticks {setup : Setup} {α : Type} {work : StateM World α} (own : Tick.OwnScan setup)
      (uses : Uses (TickCall setup) work) : Leads r work :=
    (uses.expand (StoreCall.tickCall own.uses)).leads calls
  cases deed with
  | tick own => exact ticks own (TickCall.tick _) w
  | piece own p =>
    obtain ⟨α, work, uses, same⟩ := TickCall.piece _ p w
    rw [same]
    exact ticks own uses w
  | bootstrap => exact ticks (Tick.ownScan_of_none rfl) (TickCall.wellKnown { Setup.bare with scanStorage := none }) w
  | record setup data =>
    exact ticks (Tick.ownScan_of_none rfl) (TickCall.record { setup with scanStorage := none } data) w
  | dispatch classifier observedAt e => exact (StoreCall.dispatch classifier observedAt e).leads calls w
  | index address observedAt => exact (StoreCall.account address observedAt).leads calls w
  | reindex => exact StoreCall.scanStorage.leads calls w
  | poll id => exact (StoreCall.poll trivial id).leads calls w
  | follow id items => exact (StoreCall.follow trivial id items).leads calls w
  | around h => exact same h

theorem Deed.kept {w w' : World} (deed : Deed w w') : World.Kept w w' :=
  deed.leads (fun same h => same ▸ h) Keeps.storeCall

/-- Whatever is done, in any order and whatever calls fail, a store that was empty or canonical is
canonical. -/
theorem Store.canonical_of_deeds {w w' : World} (run : Relation.ReflTransGen Deed w w')
    (start : w.store = .empty ∨ w.store.Canonical) : w'.store.Canonical := by
  induction run with
  | refl =>
    rcases start with empty | canonical
    · rw [empty]
      exact canonical_empty
    · exact canonical
  | tail _ deed ih => exact deed.kept ih

/-- A chain whose transaction failed and names its payer without the prefix. -/
def failedTransfer : Chain.Node :=
  let blocks := (Chain.Node.empty.putBlock (.bare "a" 0 ["c"])).putCollection ⟨"c", ["t"]⟩
  blocks.putTransaction { Chain.Transaction.bare "t" with payer := "01" } ⟨.executed, 7, "out of gas", []⟩

/-- The world after a tick and two steps of the watcher. -/
def failedTransferWatched : World :=
  ((Watch.step "t").run ((Watch.step "t").run ((Tick.run .bare).run.run (.start failedTransfer .empty .epoch)).2).2).2

theorem canonical_failedTransfer :
    failedTransferWatched.store.Canonical ∧
      (failedTransferWatched.store.transactions.get? "t").map (fun t => (t.payer, t.status.grpcStatus)) =
        some ("0x01", 1) := by
  have own : Tick.OwnScan .bare := fun scan found => .inl (Option.some.inj found).symm
  have run : Relation.ReflTransGen Deed (.start failedTransfer .empty .epoch) failedTransferWatched :=
    ((Relation.ReflTransGen.single (.tick own _)).tail (.poll "t" _)).tail (.poll "t" _)
  exact ⟨Store.canonical_of_deeds run (.inl rfl), by decide +kernel⟩

end ChainIndex
