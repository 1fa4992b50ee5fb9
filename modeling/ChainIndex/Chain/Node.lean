import ChainIndex.Address
import ChainIndex.Chain.Snapshot
import ChainIndex.Decimal
import ChainIndex.Error

/-!
# A node of the chain

A `Node` holds what the chain reports: blocks by height, collections, transactions and their
statuses by id, accounts and their storage by prefixed address. The status of a transaction is a
channel: it has a version that grows each time the status is set, so that a subscription can tell
whether it has seen the latest one. Several changes that a subscription did not see in between
appear to it as one.
-/

set_option autoImplicit false

namespace ChainIndex.Chain

/-- The current status of a transaction and how many times it was set. -/
structure Channel where
  status : TransactionStatus
  version : Nat
  deriving DecidableEq

structure Node where
  blocks : Table UInt64 Block
  collections : Table String Collection
  transactions : Table String Transaction
  channels : Table String Channel
  accounts : Table String Account
  storage : Table String (List StorageItem)
  /-- The heights whose blocks cannot be fetched. -/
  failing : List UInt64
  reachable : Bool
  /-- No status will be set any more. -/
  closed : Bool
  /-- The number of subscriptions that were not released yet. -/
  openCount : Nat
  deriving DecidableEq

namespace Node

def empty : Node where
  blocks := .empty
  collections := .empty
  transactions := .empty
  channels := .empty
  accounts := .empty
  storage := .empty
  failing := []
  reachable := true
  closed := false
  openCount := 0

instance : Inhabited Node := ⟨empty⟩

/-! ### Changes -/

def putBlock (b : Block) (n : Node) : Node := { n with blocks := n.blocks.insert b.height b }

def putCollection (c : Collection) (n : Node) : Node :=
  { n with collections := n.collections.insert c.id c }

def putBody (t : Transaction) (n : Node) : Node :=
  { n with transactions := n.transactions.insert t.id t }

/-- Sets the status of a transaction, which subscriptions see as a change even if it is equal. -/
def setStatus (id : String) (status : TransactionStatus) (n : Node) : Node :=
  let version := match n.channels.get? id with
    | some channel => channel.version + 1
    | none => 0
  { n with channels := n.channels.insert id { status, version } }

def putTransaction (t : Transaction) (status : TransactionStatus) (n : Node) : Node :=
  (n.putBody t).setStatus t.id status

def putAccount (a : Account) (n : Node) : Node :=
  { n with accounts := n.accounts.insert (Address.prefixed a.address) a }

def removeAccount (address : String) (n : Node) : Node :=
  { n with accounts := n.accounts.erase (Address.prefixed address) }

def putStorage (address : String) (items : List StorageItem) (n : Node) : Node :=
  { n with storage := n.storage.insert (Address.prefixed address) items }

/-- Makes the block at a height fail until failures are cleared. -/
def failHeight (height : UInt64) (n : Node) : Node := { n with failing := height :: n.failing }

def clearFailures (n : Node) : Node := { n with failing := [] }

def setReachable (reachable : Bool) (n : Node) : Node := { n with reachable }

/-- Ends all channels; a status that was not seen yet still is. -/
def close (n : Node) : Node := { n with closed := true }

/-- A node with the data of a snapshot. -/
def ofSnapshot (s : Snapshot) : Node :=
  let n := s.blocks.foldl (fun n b => n.putBlock b) empty
  let n := s.collections.foldl (fun n c => n.putCollection c) n
  let n := s.transactions.foldl (fun n t => n.putBody t) n
  let n := s.statuses.entries.foldl (fun n e => n.setStatus e.1 e.2) n
  let n := s.accounts.foldl (fun n a => n.putAccount a) n
  s.storage.entries.foldl (fun n e => n.putStorage e.1 e.2) n

/-! ### Lookups -/

/-- The value, or an error that names what is missing. -/
def require {α : Type} (what id : String) : Option α → Except Error α
  | some a => .ok a
  | none => .error (.notFound (what ++ " " ++ id))

def headHeight? (n : Node) : Option UInt64 := n.blocks.last?.map (·.1)

def latestBlock (n : Node) : Except Error Block :=
  require "block" "latest" (n.blocks.last?.map (·.2))

def block (height : UInt64) (n : Node) : Except Error Block :=
  if n.failing.contains height then
    .error (.gateway ("block " ++ Decimal.text height.toNat ++ " unavailable"))
  else require "block at height" (Decimal.text height.toNat) (n.blocks.get? height)

def collection (id : String) (n : Node) : Except Error Collection :=
  require "collection" id (n.collections.get? id)

def transaction (id : String) (n : Node) : Except Error Transaction :=
  require "transaction" id (n.transactions.get? id)

def status (id : String) (n : Node) : Except Error TransactionStatus :=
  require "transaction status" id ((n.channels.get? id).map (·.status))

def account (address : String) (n : Node) : Except Error Account :=
  require "account" (Address.prefixed address) (n.accounts.get? (Address.prefixed address))

/-- The items that an account stores; an unknown account stores none. -/
def storageItems (address : String) (n : Node) : List StorageItem :=
  (n.storage.get? (Address.prefixed address)).getD []

/-! ### Subscriptions -/

/-- A subscription to the status of a transaction. -/
structure Subscription where
  id : String
  /-- The version that was seen last; `none` before the first one. -/
  seen : Option Nat
  deriving DecidableEq

/-- What a subscription has to offer. -/
inductive Poll where
  | update (status : TransactionStatus)
  | pending
  | closed
  deriving DecidableEq

def subscribe (id : String) (n : Node) : Except Error (Subscription × Node) :=
  (n.status id).map fun _ => (⟨id, none⟩, { n with openCount := n.openCount + 1 })

/-- Ends a subscription. -/
def release (n : Node) : Node := { n with openCount := n.openCount - 1 }

/-- The next item of a subscription: first the current status, then the latest one whenever it was
set again. -/
def poll (n : Node) (s : Subscription) : Poll × Subscription :=
  match n.channels.get? s.id with
  | none => (.closed, s)
  | some channel =>
    if s.seen = some channel.version then (if n.closed then .closed else .pending, s)
    else (.update channel.status, { s with seen := some channel.version })

end Node

end ChainIndex.Chain
