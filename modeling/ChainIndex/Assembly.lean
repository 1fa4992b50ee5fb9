import ChainIndex.World

/-!
# Block data

Everything the chain holds for one height. A block names its collections, a collection its
transactions, and the status of a transaction carries its events. The data of a height is complete
or not there at all: the first lookup that fails ends the assembly.
-/

set_option autoImplicit false

namespace ChainIndex

/-- A transaction with its status at the time it was fetched. -/
structure FetchedTransaction where
  transaction : Chain.Transaction
  status : Chain.TransactionStatus
  deriving DecidableEq

namespace FetchedTransaction

/-- The events with the ids of the transaction and of the block it refers to. -/
def events (t : FetchedTransaction) : List Chain.Event :=
  t.status.events.map fun e =>
    { e with transactionId := t.transaction.id, blockId := t.transaction.referenceBlockId }

/-- Bodies and statuses paired up in their order. -/
def pair : List Chain.Transaction → List Chain.TransactionStatus → List FetchedTransaction
  | transaction :: transactions, status :: statuses =>
    { transaction, status } :: pair transactions statuses
  | _, _ => []

instance : JsonForm FetchedTransaction where
  toJson t := .object [("transaction", toJson t.transaction), ("status", toJson t.status)]
  ofJson? := Reader.run? do
    let transaction ← Reader.field "transaction"
    let status ← Reader.field "status"
    return { transaction, status }

end FetchedTransaction

structure BlockData where
  block : Chain.Block
  collections : List Chain.Collection
  transactions : List FetchedTransaction
  /-- The events of all transactions. -/
  events : List Chain.Event
  deriving DecidableEq

namespace BlockData

open Act

/-- The height of the head of the chain. -/
def latestHeight : Act UInt64 := return (← ask .latestBlock Chain.Node.latestBlock).height

/-- The data of a height: the block, its collections, the bodies and then the statuses of their
transactions. -/
def fetch (height : UInt64) : Act BlockData := do
  let block ← ask (.block height) (Chain.Node.block height)
  let collections ← Attempt.collect
    (fun id => ask (.collection id) (Chain.Node.collection id))
    (block.guarantees.map (·.collectionId))
  let ids := collections.flatMap (·.transactionIds)
  let bodies ← Attempt.collect (fun id => ask (.transaction id) (Chain.Node.transaction id)) ids
  let statuses ← Attempt.collect (fun id => ask (.status id) (Chain.Node.status id)) ids
  let transactions := FetchedTransaction.pair bodies statuses
  return { block, collections, transactions,
           events := transactions.flatMap FetchedTransaction.events }

instance : JsonForm BlockData where
  toJson d := .object [
    ("block", toJson d.block), ("collections", toJson d.collections),
    ("transactions", toJson d.transactions), ("events", toJson d.events)]
  ofJson? := Reader.run? do
    let block ← Reader.field "block"
    let collections ← Reader.fieldOr "collections" []
    let transactions ← Reader.fieldOr "transactions" []
    let events ← Reader.fieldOr "events" []
    return { block, collections, transactions, events }

end BlockData

end ChainIndex
