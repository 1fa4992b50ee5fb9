import ChainIndex.Chain.Account
import ChainIndex.Chain.Block
import ChainIndex.Chain.Transaction

/-!
# Chain data as a file holds it
-/

set_option autoImplicit false

namespace ChainIndex.Chain

/-- Chain data to replay. Every part may be left out. -/
structure Snapshot where
  blocks : List Block
  collections : List Collection
  transactions : List Transaction
  /-- The status of each transaction by its id. -/
  statuses : Table String TransactionStatus
  accounts : List Account
  /-- The storage of each account by its address. -/
  storage : Table String (List StorageItem)
  deriving DecidableEq

namespace Snapshot

def empty : Snapshot := ⟨[], [], [], .empty, [], .empty⟩

instance : JsonForm Snapshot where
  toJson s := .object [
    ("blocks", toJson s.blocks), ("collections", toJson s.collections),
    ("transactions", toJson s.transactions), ("statuses", toJson s.statuses),
    ("accounts", toJson s.accounts), ("storage", toJson s.storage)]
  ofJson? := Reader.run? do
    let blocks ← Reader.fieldOr "blocks" []
    let collections ← Reader.fieldOr "collections" []
    let transactions ← Reader.fieldOr "transactions" []
    let statuses ← Reader.fieldOr "statuses" Table.empty
    let accounts ← Reader.fieldOr "accounts" []
    let storage ← Reader.fieldOr "storage" Table.empty
    return { blocks, collections, transactions, statuses, accounts, storage }

end Snapshot

end ChainIndex.Chain
