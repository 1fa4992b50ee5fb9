import ChainIndex.Abort
import ChainIndex.HeightRange
import ChainIndex.Recording
import ChainIndex.StorageScan
import ChainIndex.Watch
import ChainIndex.WellKnown

/-!
# Ticks

A tick brings the index up to the head of the chain, one height after the other. It is skipped if the
node cannot be reached or does not tell its head. A height that cannot be fetched, or whose block
cannot be written, ends the tick; the next tick begins with it again.
-/

set_option autoImplicit false

namespace ChainIndex

/-- What an indexer works with. -/
structure Setup where
  config : Config
  classifier : Classifier
  /-- Reads the signature of a script. -/
  parse : String → Script.Outcome
  /-- Reads account storage again and gives the number of items written. -/
  scanStorage : Option (Act Nat)

/-- Why a tick did nothing. -/
inductive SkipReason where
  | tickInProgress
  | gatewayUnreachable
  | rangeUnavailable
  deriving DecidableEq

def SkipReason.text : SkipReason → String
  | tickInProgress => "tick_in_progress"
  | gatewayUnreachable => "gateway_unreachable"
  | rangeUnavailable => "range_unavailable"

/-- What a tick did. -/
structure TickReport where
  skipped : Option SkipReason
  /-- The heights that were processed, in ascending order. -/
  processed : List UInt64
  /-- The height that failed. -/
  failedHeight : Option UInt64
  /-- The number of well-known accounts that were new. -/
  bootstrapped : Nat
  items : ItemCounts
  deriving DecidableEq

namespace TickReport

def idle : TickReport := ⟨none, [], none, 0, .zero⟩

def skip (reason : SkipReason) : TickReport := { idle with skipped := some reason }

end TickReport

namespace Tick

/-- Work on the world that may abort. -/
abbrev Course (α : Type) := ExceptT Abort (StateM World) α

/-- Scans the storage of accounts if that is wanted; an error changes nothing else. -/
def scanStorage (setup : Setup) : StateM World Unit := do
  match setup.scanStorage with
  | some scan => if setup.config.reindexes then let _ ← scan.run
  | none => return

def spawnAll : List FetchedTransaction → StateM World Unit
  | [] => return
  | t :: rest => do
    let _ ← Watch.spawn t.transaction.id
    spawnAll rest

/-- Processes a height: fetches it, records it, scans storage and starts the watchers. -/
def processHeight (setup : Setup) (height : UInt64) : Act ItemCounts := do
  let data ← BlockData.fetch height
  let recorded ← (Recording.run setup.parse setup.classifier data).result
  scanStorage setup
  match recorded with
  | .error e => throw e
  | .ok counts =>
    if setup.config.watches then spawnAll data.transactions
    return counts

/-- Processes up to `n` heights from `height` on, until one fails. -/
def climb (setup : Setup) : Nat → UInt64 → StateM World TickReport
  | 0, _ => return .idle
  | n + 1, height => do
    match ← (processHeight setup height).run with
    | .ok counts =>
      let report ← climb setup n (height + 1)
      return { report with processed := height :: report.processed, items := counts.add report.items }
    | .error _ => return { TickReport.idle with failedHeight := some height }

/-- The height of the highest indexed block. -/
def lastIndexedHeight : Act (Option UInt64) :=
  return Store.greatestHeight? (← Act.findAll Indexed.Block)

/-- The last indexed height and the height of the head. -/
def bounds : Act (Option UInt64 × UInt64) := do
  let last ← lastIndexedHeight
  let latest ← BlockData.latestHeight
  return (last, latest)

def bootstrap (setup : Setup) : StateM World Nat :=
  if setup.config.bootstraps then WellKnown.run else return 0

/-- One tick. It aborts if the next height does not fit its word. -/
def run (setup : Setup) : Course TickReport := do
  if !(← get).node.reachable then
    modify (World.setPhase .offline)
    return .skip .gatewayUnreachable
  modify (World.setPhase .syncing)
  let found ← ExceptT.lift bounds.run
  match found with
  | .error _ =>
    let bootstrapped ← bootstrap setup
    modify (World.setPhase .idle)
    return { TickReport.skip .rangeUnavailable with bootstrapped }
  | .ok (last, latest) =>
    match HeightRange.after? last latest with
    | none => throw .heightOverflow
    | some range =>
      let bootstrapped ← bootstrap setup
      let report ← climb setup range.count range.next
      modify (World.setPhase .idle)
      return { report with bootstrapped }

/-- Two ticks of which the second begins before the first has ended: it is skipped. -/
def overlapping (setup : Setup) : Course (TickReport × TickReport) := do
  let first ← run setup
  return (first, .skip .tickInProgress)

/-! ### Ticks on a clock -/

/-- Makes `n` ticks. Watchers go on after each. -/
def repeated (setup : Setup) : Nat → Course Unit
  | 0 => return
  | n + 1 => do
    let _ ← run setup
    Watch.settle
    repeated setup n

/-- Ticks at the multiples of `period` up to a time, of which the first `made` were made before;
gives the number of ticks made by then. -/
def upTo (setup : Setup) (period made time : Nat) : Course Nat := do
  let due := time / period + 1
  repeated setup (due - made)
  return max due made

/-- Does other work at given times between the ticks. -/
def between {β : Type} (setup : Setup) (period : Nat) :
    Nat → List (Nat × Course β) → Course (Nat × List β)
  | made, [] => return (made, [])
  | made, (time, work) :: rest => do
    let made ← upTo setup period made time
    let result ← work
    let (made, results) ← between setup period made rest
    return (made, result :: results)

/-- Runs the indexer for `duration` milliseconds, from a first tick at time zero on, and then ends
it. The other work is done at its times. -/
def runFor {β : Type} (setup : Setup) (duration : Nat) (work : List (Nat × Course β)) :
    Course (List β) := do
  let period := setup.config.pollInterval.toNat
  if period = 0 then throw .zeroPeriod
  let (made, results) ← between setup period 0 work
  let _ ← upTo setup period made duration
  Watch.shutdown
  return results

end Tick

end ChainIndex
