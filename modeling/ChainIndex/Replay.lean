import ChainIndex.Indexer

/-!
# Replays

A replay brings the index up to the head of a chain that stands still. It ticks until a tick reaches
the head or makes no progress, and then counts the records. It is complete if the last indexed height
is the head; an index that was ahead of the chain before stays ahead, and is not complete either.
-/

set_option autoImplicit false

namespace ChainIndex

/-- What the index holds after a replay, and how many events the replay handled. -/
structure Summary where
  lastIndexedHeight : Option UInt64
  blocks : Nat
  transactions : Nat
  events : Nat
  accounts : Nat
  keys : Nat
  contracts : Nat
  storageItems : Nat
  dispatched : Nat
  failedDispatches : Nat
  deriving DecidableEq

def Summary.of (store : Store) (counts : ItemCounts) : Summary where
  lastIndexedHeight := store.lastIndexedHeight
  blocks := store.blocks.size
  transactions := store.transactions.size
  events := store.events.size
  accounts := store.accounts.size
  keys := store.keys.size
  contracts := store.contracts.size
  storageItems := store.storageItems.size
  dispatched := counts.dispatched
  failedDispatches := counts.failed

namespace Replay

/-- No tick follows: this one made no progress, or it reached the head. -/
def isLast (head : Option UInt64) (report : TickReport) : Bool :=
  report.skipped.isSome || report.failedHeight.isSome ||
    match report.processed.getLast?, head with
    | some height, some head => head ≤ height
    | _, _ => true

/-- Ticks until the head is reached or a tick makes no progress, `n` ticks at most. -/
def catchUp (setup : Setup) (head : Option UInt64) : Nat → Tick.Course ItemCounts
  | 0 => return .zero
  | n + 1 => do
    let report ← Tick.run setup
    if isLast head report then return report.items
    return report.items.add (← catchUp setup head n)

/-- Catches up with the chain and ends the indexer. Every tick but the last one indexes a block of
the chain, so there are no more ticks than this. -/
def course (setup : Setup) : Tick.Course ItemCounts := do
  let node := (← get).node
  let counts ← catchUp setup node.headHeight? (node.blocks.size + 1)
  Watch.settle
  Watch.shutdown
  return counts

/-- Ticks on a clock until it is interrupted; what the ticks do is not counted. -/
def follow (setup : Setup) : Tick.Course ItemCounts := do
  let _ ← Tick.runFor (β := Unit) setup 0 []
  return .zero

/-- What a replay ended with. -/
structure Outcome where
  summary : Summary
  /-- The height of the head of the chain. -/
  head : Option UInt64
  deriving DecidableEq

/-- The index ends with the head of the chain. A chain without blocks has nothing to reach. -/
def Outcome.isComplete (o : Outcome) : Bool :=
  o.head.isNone || o.summary.lastIndexedHeight == o.head

/-- Replays the chain of an indexer, and gives the store that is left. -/
def run (follows : Bool) (indexer : Indexer) : Except Abort Outcome × Store :=
  let course := if follows then follow indexer.setup else course indexer.setup
  match course.run.run indexer.world with
  | (.ok counts, world) =>
    (.ok ⟨.of world.store counts, indexer.world.node.headHeight?⟩, world.store)
  | (.error e, world) => (.error e, world.store)

end Replay

end ChainIndex
