import ChainIndex.Proofs.Pieces

/-!
# The calls of a tick and the writes in them

Which calls a tick is put together from: it asks the node, reads indexes, sets its phase, records what it
fetched, applies effects, scans storage and starts watchers. Whatever of this, or of a watcher's work,
changes the store does so by the writes of `StoreCall`: blocks, transactions and events are only ever
created, and a transaction that is there only ever gets another status.
-/

set_option autoImplicit false

namespace ChainIndex

open Attempt (Uses)

/-- A call of a tick. -/
inductive TickCall (setup : Setup) : (α : Type) → StateM World α → Prop
  | world : TickCall setup _ (get : StateM World World)
  | phase (p : Phase) : TickCall setup _ (modify (World.setPhase p))
  | ask {α : Type} (call : Call) (answer : Chain.Node → Except Error α) : TickCall setup _ (Act.ask call answer).run
  | read {α : Type} (call : Call) (answer : Store → α) : TickCall setup _ (Act.read call answer).run
  | block (b : Chain.Block) : TickCall setup _ (Recording.recordBlock b).run
  | transaction (b : Chain.Block) (t : FetchedTransaction) :
      TickCall setup _ (Recording.recordTransaction setup.parse b t).run
  | event (e : Chain.Event) : TickCall setup _ (Recording.recordEvent e).run
  | effect (observedAt : Timestamp) (e : Chain.Event) :
      TickCall setup _ (Meaning.dispatch setup.classifier observedAt e).run
  | account (address : String) (observedAt : Timestamp) : TickCall setup _ (Account.index address observedAt).run
  | scan {scan : Act Nat} (found : setup.scanStorage = some scan) : TickCall setup _ scan.run
  | spawn (id : String) : TickCall setup _ (Watch.spawn id)

/-- Kinds of work that cover everything the work on heights is put together from. -/
structure Tick.Covers (setup : Setup) (kinds : (α : Type) → StateM World α → Prop) : Prop where
  ask {α : Type} (call : Call) (answer : Chain.Node → Except Error α) : kinds _ (Act.ask call answer).run
  block (b : Chain.Block) : kinds _ (Recording.recordBlock b).run
  transaction (b : Chain.Block) (t : FetchedTransaction) : kinds _ (Recording.recordTransaction setup.parse b t).run
  event (e : Chain.Event) : kinds _ (Recording.recordEvent e).run
  effect (observedAt : Timestamp) (e : Chain.Event) : kinds _ (Meaning.dispatch setup.classifier observedAt e).run
  scan {scan : Act Nat} (found : setup.scanStorage = some scan) : kinds _ scan.run
  spawn (id : String) : kinds _ (Watch.spawn id)

namespace Tick.Covers
variable {setup : Setup} {kinds : (α : Type) → StateM World α → Prop} (covers : Tick.Covers setup kinds)
include covers

theorem fetch (height : UInt64) : Uses kinds (BlockData.fetch height).run := by
  refine .seq (.piece (covers.ask _ _)) fun block => .seq (.collect fun _ _ => .piece (covers.ask _ _)) fun collections => ?_
  refine .seq (.collect fun _ _ => .piece (covers.ask _ _)) fun bodies => ?_
  exact .seq (.collect fun _ _ => .piece (covers.ask _ _)) fun statuses => .ok _

theorem record (data : BlockData) : Uses kinds (Recording.run setup.parse setup.classifier data).run := by
  refine .seq (.result (.piece (covers.block _))) fun block => ?_
  refine .seq (.lift (.forEach fun t _ => .piece (covers.transaction _ t))) fun _ => ?_
  refine .seq (.lift (.forEach fun e _ => .piece (covers.event e))) fun _ => ?_
  refine .seq (.lift (.forEach fun e _ => .piece (covers.effect _ e))) fun _ => ?_
  split
  · exact .throw _
  · exact .ok _

theorem reindex : Uses kinds (Tick.scanStorage setup) := by
  unfold Tick.scanStorage
  split
  · next scan found =>
    split
    · exact .bind (.piece (covers.scan found)) fun _ => .pure _
    · exact .pure _
  · exact .pure _

theorem spawnAll (ts : List FetchedTransaction) : Uses kinds (Tick.spawnAll ts) := by
  induction ts with
  | nil => exact .pure _
  | cons t ts ih => exact .bind (.piece (covers.spawn t.transaction.id)) fun _ => ih

theorem processHeight (height : UInt64) : Uses kinds (Tick.processHeight setup height).run := by
  refine .seq (covers.fetch height) fun data => .seq (.result (covers.record data)) fun recorded => ?_
  refine .seq (.lift covers.reindex) fun _ => ?_
  split
  · exact .throw _
  · split
    · exact .seq (.lift (covers.spawnAll _)) fun _ => .ok _
    · exact .ok _

theorem climb (n : Nat) (height : UInt64) : Uses kinds (Tick.climb setup n height) := by
  induction n generalizing height with
  | zero => exact .pure _
  | succ n ih =>
    refine .bind (covers.processHeight height) fun result => ?_
    split
    · exact .bind (ih _) fun _ => .pure _
    · exact .pure _

end Tick.Covers

namespace TickCall
variable (setup : Setup)

theorem covers : Tick.Covers setup (TickCall setup) := ⟨.ask, .block, .transaction, .event, .effect, .scan, .spawn⟩

theorem wellKnown : Uses (TickCall setup) WellKnown.run := by
  refine .bind (.forEach fun address _ => ?_) fun _ => .pure _
  refine .seq (.piece (.read _ _)) fun found => ?_
  split
  · exact .ok _
  · exact .seq (.lift (.piece .world)) fun w => .seq (.piece (.account _ _)) fun _ => .ok _

theorem bootstrap : Uses (TickCall setup) (Tick.bootstrap setup) := by
  unfold Tick.bootstrap
  split
  · exact wellKnown setup
  · exact .pure _

theorem bounds : Uses (TickCall setup) Tick.bounds.run := by
  refine .seq (.seq (.piece (.read _ _)) fun _ => .ok _) fun _ => ?_
  exact .seq (.seq (.piece (.ask _ _)) fun _ => .ok _) fun _ => .ok _

theorem record (data : BlockData) :
    Uses (TickCall setup) (Recording.run setup.parse setup.classifier data).run := (covers setup).record data

theorem tick : Uses (TickCall setup) (Tick.run setup).run := by
  refine .seq (.lift (.piece .world)) fun w => ?_
  split
  · exact .seq (.lift (.piece (.phase _))) fun _ => .ok _
  · refine .seq (.lift (.piece (.phase _))) fun _ => .seq (.lift (bounds setup)) fun found => ?_
    split
    · exact .seq (.lift (bootstrap setup)) fun _ => .seq (.lift (.piece (.phase _))) fun _ => .ok _
    · split
      · exact .throw _
      · refine .seq (.lift (bootstrap setup)) fun _ => .seq (.lift ((covers setup).climb _ _)) fun _ => ?_
        exact .seq (.lift (.piece (.phase _))) fun _ => .ok _

/-- Each piece of a height is put together from calls of a tick. -/
theorem piece (p : Piece) (w : World) :
    ∃ (α : Type) (work : StateM World α), Uses (TickCall setup) work ∧ p.apply setup w = (work.run w).2 := by
  cases p with
  | block b => exact ⟨_, _, .piece (.block b), rfl⟩
  | transaction b t => exact ⟨_, _, .piece (.transaction b t), rfl⟩
  | event e => exact ⟨_, _, .piece (.event e), rfl⟩
  | effect observedAt e => exact ⟨_, _, .piece (.effect observedAt e), rfl⟩
  | scan => exact ⟨_, _, (covers setup).reindex, rfl⟩
  | spawn id => exact ⟨_, _, .piece (.spawn id), rfl⟩

variable {setup}

/-- The parts that are written by the calls of a tick which neither apply effects, nor index accounts, nor
start watchers. -/
def recording : List Part := [.phase, .shelf .block, .shelf .transaction, .shelf .event, .shelf .storageItem]

/-- What holds of work that writes only these parts holds of every call of a tick, if it holds of those that
apply effects, index accounts or start watchers. -/
theorem confined (scans : Tick.ScansStorageOnly setup) {holds : (α : Type) → StateM World α → Prop}
    (quiet : ∀ {α : Type} {work : StateM World α}, Only recording work → holds α work)
    (effect : ∀ observedAt e, holds _ (Meaning.dispatch setup.classifier observedAt e).run)
    (account : ∀ address observedAt, holds _ (Account.index address observedAt).run)
    (spawn : ∀ id, holds _ (Watch.spawn id)) {α : Type} {work : StateM World α} (call : TickCall setup α work) :
    holds α work := by
  cases call with
  | world => exact quiet .get
  | phase p => exact quiet fun w => (World.Within.setPhase p w).mono (by decide)
  | ask call answer => exact quiet (.ask call answer)
  | read call answer => exact quiet (.read call answer)
  | block b => exact quiet ((Only.recordBlock b).mono (by decide))
  | transaction b t => exact quiet ((Only.recordTransaction setup.parse b t).mono (by decide))
  | event e => exact quiet ((Only.recordEvent e).mono (by decide))
  | effect observedAt e => exact effect observedAt e
  | account address observedAt => exact account address observedAt
  | scan found => exact quiet ((scans _ found).mono (by decide))
  | spawn id => exact spawn id

end TickCall

/-- A call that writes the store, or some work that leaves it as it is. The status of a transaction is only
written over by watchers. -/
inductive StoreCall (watching : Prop) : (α : Type) → StateM World α → Prop
  | quiet {α : Type} {work : StateM World α} (still : ∀ w, (work.run w).2.store = w.store) : StoreCall watching α work
  | block (b : Chain.Block) : StoreCall watching _ (Act.create (Indexed.Block.ofChain b)).run
  | transaction (b : Chain.Block) (t : Chain.Transaction) (status : Chain.TransactionStatus)
      (interaction : Option Script.Interaction) :
      StoreCall watching _ (Act.create (Indexed.Transaction.ofChain b t status interaction)).run
  | event (e : Chain.Event) : StoreCall watching _ (Act.create (Indexed.Event.ofChain e)).run
  | effect {α : Type} {work : StateM World α} (call : EffectCall Indexed.AccountKey.Named α work) :
      StoreCall watching α work
  | storageItem (address : String) (i : Chain.StorageItem) :
      StoreCall watching _ (Act.upsert (Indexed.StorageItem.ofChain address i)).run
  | status (watches : watching) (id : String) (s : Chain.TransactionStatus) :
      StoreCall watching _ (Act.update Indexed.Transaction id (.ofChain s)).run

namespace StoreCall
variable {watching : Prop} {α : Type}

theorem ask (call : Call) (answer : Chain.Node → Except Error α) : StoreCall watching _ (Act.ask call answer).run :=
  .quiet (Only.still (.ask call answer : Only [] _) (by simp))

theorem read (call : Call) (answer : Store → α) : StoreCall watching _ (Act.read call answer).run :=
  .quiet (Only.still (.read call answer : Only [] _) (by simp))

theorem replaySafe {work : Act Unit} (h : StoreCall watching _ work.run) :
    Uses (StoreCall watching) (Recording.replaySafe work).run := by
  refine .seq (.result (.piece h)) fun done => ?_
  split
  · exact .ok _
  · exact .ok _
  · exact .throw _

theorem account (address : String) (observedAt : Timestamp) :
    Uses (StoreCall watching) (Account.index address observedAt).run :=
  (Effects.index address observedAt).expand fun call => .piece (.effect call)

theorem dispatch (classifier : Classifier) (observedAt : Timestamp) (e : Chain.Event) :
    Uses (StoreCall watching) (Meaning.dispatch classifier observedAt e).run :=
  (Effects.dispatch classifier observedAt e).expand fun call => .piece (.effect call)

theorem scanStorage : Uses (StoreCall watching) StorageScan.run.run := by
  refine .seq (.piece (read _ _)) fun accounts => .seq (.lift (.forEach fun a _ => ?_)) fun _ => .ok _
  refine .seq (.piece (ask _ _)) fun items => .seq (.lift (.forEach fun i _ => ?_)) fun _ => .ok _
  exact .piece (.storageItem _ i)

/-- If the scan of storage makes such calls only, a tick does. -/
theorem tickCall {setup : Setup} (scans : ∀ scan, setup.scanStorage = some scan → Uses (StoreCall watching) scan.run)
    {work : StateM World α} (call : TickCall setup α work) : Uses (StoreCall watching) work := by
  cases call with
  | world => exact .piece (.quiet fun _ => rfl)
  | phase p => exact .piece (.quiet fun _ => rfl)
  | ask call answer => exact .piece (ask call answer)
  | read call answer => exact .piece (read call answer)
  | block b => exact replaySafe (.block b)
  | transaction b t => exact replaySafe (.transaction _ _ _ _)
  | event e => exact replaySafe (.event e)
  | effect observedAt e => exact dispatch _ _ e
  | account address observedAt => exact account _ _
  | scan found => exact scans _ found
  | spawn id => exact .piece (.quiet ((Only.spawn id).still (by simp)))

theorem receive (watches : watching) (id : String) (item : Watch.Item) :
    Uses (StoreCall watching) (Watch.receive id item) := by
  cases item with
  | error e => exact .pure _
  | ok status => exact .bind (.bind (.piece (.status watches id status)) fun _ => .pure _) fun _ => .pure _

theorem follow (watches : watching) (id : String) (items : List Watch.Item) :
    Uses (StoreCall watching) (Watch.follow id items) := by
  induction items with
  | nil => exact .pure _
  | cons item rest ih =>
    refine .bind (receive watches id item) fun result => ?_
    split
    · exact .pure _
    · exact ih

theorem subscribe (id : String) : StoreCall watching _ (Watch.subscribe id).run := by
  refine .quiet fun w => ?_
  cases answer : w.outages.call w.calls (.subscribe id) with
  | some e =>
    rw [Watch.subscribe, Act.attempt_of_outage answer]
    rfl
  | none =>
    rw [Watch.subscribe, Act.attempt_of_answer answer]
    split <;> rfl

theorem poll (watches : watching) (id : String) : Uses (StoreCall watching) (Watch.step id) := by
  have quiet (f : World → World) (still : ∀ w, (f w).store = w.store) : Uses (StoreCall watching) (modify f) :=
    .piece (.quiet still)
  refine .bind (.piece (.quiet fun _ => rfl)) fun w => ?_
  split
  · exact .pure _
  · refine .bind (.piece (subscribe id)) fun subscription => ?_
    split
    · exact .bind (quiet _ fun _ => rfl) fun _ => .pure _
    · exact .bind (quiet _ fun _ => rfl) fun _ => .pure _
  · split
    · refine .bind (quiet _ fun _ => rfl) fun _ => .bind (receive watches id _) fun done => ?_
      split
      · exact .bind (quiet _ fun _ => rfl) fun _ => .pure _
      · exact .pure _
    · exact .bind (quiet _ fun _ => rfl) fun _ => .pure _
    · exact .pure _

end StoreCall

end ChainIndex
