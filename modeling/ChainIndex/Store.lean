import ChainIndex.Index

/-!
# The store of all indexes

One index for each kind of record.
-/

set_option autoImplicit false

namespace ChainIndex

open Indexed (Entity)

/-- The kinds of records. -/
inductive Kind where
  | block
  | transaction
  | event
  | account
  | key
  | contract
  | storageItem
  deriving DecidableEq

structure Store where
  blocks : Table String Indexed.Block
  transactions : Table String Indexed.Transaction
  events : Table String Indexed.Event
  accounts : Table String Indexed.Account
  keys : Table String Indexed.AccountKey
  contracts : Table String Indexed.Contract
  storageItems : Table String Indexed.StorageItem
  deriving DecidableEq

namespace Store

def empty : Store := ⟨.empty, .empty, .empty, .empty, .empty, .empty, .empty⟩

instance : Inhabited Store := ⟨empty⟩

/-- A kind of record that the store has an index for. -/
class Shelved (α : Type) (π : outParam Type) extends Entity α π where
  shelf : Kind
  table : Store → Table String α
  setTable : Table String α → Store → Store

instance : Shelved Indexed.Block Indexed.Block where
  shelf := .block
  table := blocks
  setTable blocks s := { s with blocks }

instance : Shelved Indexed.Transaction Indexed.TransactionStatus where
  shelf := .transaction
  table := transactions
  setTable transactions s := { s with transactions }

instance : Shelved Indexed.Event Indexed.Event where
  shelf := .event
  table := events
  setTable events s := { s with events }

instance : Shelved Indexed.Account Indexed.Account where
  shelf := .account
  table := accounts
  setTable accounts s := { s with accounts }

instance : Shelved Indexed.AccountKey Indexed.AccountKey where
  shelf := .key
  table := keys
  setTable keys s := { s with keys }

instance : Shelved Indexed.Contract Indexed.Contract where
  shelf := .contract
  table := contracts
  setTable contracts s := { s with contracts }

instance : Shelved Indexed.StorageItem Indexed.StorageItem where
  shelf := .storageItem
  table := storageItems
  setTable storageItems s := { s with storageItems }

/-- The greatest height of the blocks. -/
def greatestHeight? (blocks : List Indexed.Block) : Option UInt64 :=
  blocks.foldl (fun greatest b => some (max (greatest.getD b.height) b.height)) none

/-- The height of the highest indexed block. -/
def lastIndexedHeight (s : Store) : Option UInt64 := greatestHeight? s.blocks.values

end Store

end ChainIndex
