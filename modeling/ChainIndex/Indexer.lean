import ChainIndex.Tick

/-!
# Indexers

A plan says what an indexer is to be made of. Building it checks that the parts fit together.
-/

set_option autoImplicit false

namespace ChainIndex

/-- An indexer to be built. -/
structure Plan where
  config : Config
  /-- The node to follow. -/
  node : Option Chain.Node
  /-- Whether account storage can be read. -/
  readsStorage : Bool
  /-- Another way to read account storage again. -/
  scanStorage : Option (Act Nat)
  parse : String → Script.Outcome
  store : Store

/-- An indexer and the world it works on. -/
structure Indexer where
  setup : Setup
  world : World

namespace Plan

/-- A plan with the default configuration and no node. -/
def default : Plan where
  config := .default
  node := none
  readsStorage := false
  scanStorage := none
  parse := Script.parse
  store := .empty

/-- How account storage is read again: another way goes before the scan of all accounts. -/
def scan? (p : Plan) : Except Error (Option (Act Nat)) :=
  match p.scanStorage with
  | some scan => .ok (some scan)
  | none =>
    if p.readsStorage then .ok (some StorageScan.run)
    else if p.config.reindexes then
      .error (.other "storage reindexing is enabled but no account storage source was given")
    else .ok none

/-- The indexer of a plan, at the time of the clock. -/
def build (p : Plan) (clock : Timestamp) : Except Error Indexer :=
  match p.node with
  | none => .error (.other "a gateway is required")
  | some node => do
    let scanStorage ← p.scan?
    let classifier ← Classifier.ofConfig p.config
    return {
      setup := { config := p.config, classifier, parse := p.parse, scanStorage }
      world := World.start node p.store clock }

end Plan

end ChainIndex
