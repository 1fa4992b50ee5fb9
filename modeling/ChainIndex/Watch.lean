import ChainIndex.Indexed.OfChain
import ChainIndex.World

/-!
# Watching transactions

A watcher follows the status of one transaction and writes every status it sees to the stored
transaction, until the status is sealed or the stream ends. A transaction has at most one watcher
that has not finished. Watchers take single steps, so that anything may happen between two of them.
-/

set_option autoImplicit false

namespace ChainIndex.Watch

/-- Starts a watcher of a transaction, unless it has one; tells whether it did. -/
def spawn (id : String) : StateM World Bool := fun w =>
  if w.watchers.contains id then (false, w)
  else (true, { w with watchers := w.watchers.insert id .spawned })

def setStage (id : String) (stage : Stage) : StateM World Unit :=
  modify fun w => { w with watchers := w.watchers.insert id stage }

/-- Ends a watcher that has no subscription. -/
def leave (id : String) : StateM World Unit :=
  modify fun w => { w with watchers := w.watchers.erase id }

/-- Ends a watcher and releases its subscription. -/
def finish (id : String) : StateM World Unit :=
  modify fun w => { w with watchers := w.watchers.erase id, node := w.node.release }

def subscribe (id : String) : Act Chain.Node.Subscription :=
  Act.attempt (.subscribe id) fun w =>
    match w.node.subscribe id with
    | .ok (subscription, node) => (.ok subscription, { w with node })
    | .error e => (.error e, w)

/-- Writes a status to the stored transaction. If that fails the stored status stays. -/
def record (id : String) (status : Chain.TransactionStatus) : StateM World Unit := do
  let _ ← (Act.update Indexed.Transaction id (Indexed.TransactionStatus.ofChain status)).run

/-- An item of a status stream. -/
abbrev Item := Except Error Chain.TransactionStatus

/-- The result of a stream that ends too early. -/
def closedEarly (id : String) : Error :=
  .subscription ("status stream for " ++ id ++ " closed before the transaction was sealed")

/-- What becomes of an item: a status is written. There is a result if no item is taken after it. -/
def receive (id : String) : Item → StateM World (Option (Except Error Unit))
  | .ok status => do
    record id status
    return if status.status.isSealed then some (.ok ()) else none
  | .error e => return some (.error e)

/-- Follows a stream to its first sealed status, its first error or its end. Gives the result and the
items that are left. -/
def follow (id : String) : List Item → StateM World (Except Error Unit × List Item)
  | [] => return (.error (closedEarly id), [])
  | item :: rest => do
    match ← receive id item with
    | some result => return (result, rest)
    | none => follow id rest

/-- What a watcher finds in its stream. -/
inductive Arrival where
  | item (i : Item)
  | nothing
  | closed

/-- What a subscription has to offer. One that breaks off does so behind its first status. -/
def arrival (node : Chain.Node) (subscription : Chain.Node.Subscription)
    (breaks : Option Break) : Arrival × Chain.Node.Subscription :=
  match breaks, subscription.seen with
  | some (.failed e), some _ => (.item (.error e), subscription)
  | some .ended, some _ => (.closed, subscription)
  | _, _ =>
    match node.poll subscription with
    | (.update status, subscription) => (.item (.ok status), subscription)
    | (.pending, subscription) => (.nothing, subscription)
    | (.closed, subscription) => (.closed, subscription)

/-- One step of the watcher of a transaction: it subscribes, or takes one item of its stream. Tells
whether it did anything, and so may go on. -/
def step (id : String) : StateM World Bool := do
  let w ← get
  match w.watchers.get? id with
  | none => return false
  | some .spawned =>
    match ← (subscribe id).run with
    | .ok subscription => setStage id (.subscribed subscription (w.outages.stream id))
    | .error _ => leave id
    return true
  | some (.subscribed subscription breaks) =>
    match arrival w.node subscription breaks with
    | (.item item, subscription) =>
      setStage id (.subscribed subscription breaks)
      if (← receive id item).isSome then finish id
      return true
    | (.closed, _) =>
      finish id
      return true
    | (.nothing, _) => return false

/-- Steps of the watcher of a transaction, `n` at most, until it waits. -/
def steps (id : String) : Nat → StateM World Unit
  | 0 => return
  | n + 1 => do
    if ← step id then steps id n

def settleEach : List String → StateM World Unit
  | [] => return
  | id :: ids => do
    steps id 4
    settleEach ids

/-- Lets every watcher go on until it waits: as the chain stands still meanwhile, a watcher has at
most a subscription, a status and an end to come. -/
def settle : StateM World Unit := do settleEach (← get).watchers.keys

def Stage.isSubscribed : Stage → Bool
  | .spawned => false
  | .subscribed _ _ => true

/-- Ends all watchers and releases their subscriptions. -/
def drain : StateM World Unit :=
  modify fun w =>
    let subscribed := w.watchers.values.countP Stage.isSubscribed
    { w with watchers := .empty, node := { w.node with openCount := w.node.openCount - subscribed } }

/-- Ends the indexer. -/
def shutdown : StateM World Unit := do
  modify (World.setPhase .stopping)
  drain
  modify (World.setPhase .stopped)

end ChainIndex.Watch
