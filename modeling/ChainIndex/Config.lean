import ChainIndex.Json.Record

/-!
# Configuration and phase of an indexer
-/

set_option autoImplicit false

namespace ChainIndex

structure Config where
  /-- A name that tells this indexer from others. -/
  id : String
  /-- The network that is indexed. -/
  chain : String
  /-- The time between two ticks in milliseconds. -/
  pollInterval : UInt64
  withdrawnPattern : String
  depositedPattern : String
  /-- Index the accounts that a network starts with before any event names them. -/
  bootstraps : Bool
  /-- Follow the status of each new transaction until it is sealed. -/
  watches : Bool
  /-- Read the storage of all accounts again after each block. -/
  reindexes : Bool
  deriving DecidableEq

namespace Config

def default : Config where
  id := "flowindex"
  chain := "flow-emulator"
  pollInterval := 1000
  withdrawnPattern := "A\\..*\\.FlowToken\\.TokensWithdrawn"
  depositedPattern := "A\\..*\\.FlowToken\\.TokensDeposited"
  bootstraps := true
  watches := true
  reindexes := true

/-- Every field may be left out. -/
instance : JsonForm Config where
  toJson c := .object [
    ("id", toJson c.id), ("chain", toJson c.chain), ("poll_interval_ms", toJson c.pollInterval),
    ("token_withdrawn_pattern", toJson c.withdrawnPattern),
    ("token_deposited_pattern", toJson c.depositedPattern),
    ("bootstrap_well_known_accounts", toJson c.bootstraps),
    ("watch_transaction_status", toJson c.watches), ("reindex_storage", toJson c.reindexes)]
  ofJson? := Reader.run? do
    let id ← Reader.fieldOr "id" default.id
    let chain ← Reader.fieldOr "chain" default.chain
    let pollInterval ← Reader.fieldOr "poll_interval_ms" default.pollInterval
    let withdrawnPattern ← Reader.fieldOr "token_withdrawn_pattern" default.withdrawnPattern
    let depositedPattern ← Reader.fieldOr "token_deposited_pattern" default.depositedPattern
    let bootstraps ← Reader.fieldOr "bootstrap_well_known_accounts" default.bootstraps
    let watches ← Reader.fieldOr "watch_transaction_status" default.watches
    let reindexes ← Reader.fieldOr "reindex_storage" default.reindexes
    return { id, chain, pollInterval, withdrawnPattern, depositedPattern, bootstraps, watches,
             reindexes }

end Config

/-- What an indexer is doing. -/
inductive Phase where
  /-- Between two ticks. -/
  | idle
  | syncing
  /-- The gateway could not be reached at the last tick. -/
  | offline
  /-- Ending the watchers of transactions. -/
  | stopping
  | stopped
  deriving DecidableEq

namespace Phase

def name : Phase → String
  | idle => "Idle"
  | syncing => "Syncing"
  | offline => "Offline"
  | stopping => "Stopping"
  | stopped => "Stopped"

def text : Phase → String
  | idle => "idle"
  | syncing => "syncing"
  | offline => "offline"
  | stopping => "stopping"
  | stopped => "stopped"

def ofName? (name : String) : Option Phase :=
  [idle, syncing, offline, stopping, stopped].find? fun phase => phase.name == name

instance : JsonForm Phase where
  toJson p := .string p.name
  ofJson? j := j.choice?.bind ofName?

end Phase

end ChainIndex
