import ChainIndex.Assembly
import ChainIndex.Effect

/-!
# Recording a height

How the data of a height is written: the block, its transactions, its events, and then the effects of
the events. A record that exists already was written by an earlier attempt at the same height and is
left as it is. Only an error in writing the block makes the height fail; the others are counted.
-/

set_option autoImplicit false

namespace ChainIndex

/-- How many items of a height, or of several, were handled. -/
structure ItemCounts where
  transactions : Nat
  events : Nat
  dispatched : Nat
  failed : Nat
  deriving DecidableEq

namespace ItemCounts

def zero : ItemCounts := ⟨0, 0, 0, 0⟩

def add (a b : ItemCounts) : ItemCounts where
  transactions := a.transactions + b.transactions
  events := a.events + b.events
  dispatched := a.dispatched + b.dispatched
  failed := a.failed + b.failed

end ItemCounts

namespace Recording

/-- A record that exists already is no error. -/
def replaySafe (work : Act Unit) : Act Unit := do
  match ← work.result with
  | .ok () => return
  | .error (.alreadyExists _) => return
  | .error e => throw e

def recordBlock (block : Chain.Block) : Act Unit :=
  replaySafe (Act.create (Indexed.Block.ofChain block))

def recordTransaction (parse : String → Script.Outcome) (block : Chain.Block)
    (t : FetchedTransaction) : Act Unit :=
  replaySafe (Act.create
    (Indexed.Transaction.ofChain block t.transaction t.status (parse t.transaction.script).interaction))

def recordEvent (e : Chain.Event) : Act Unit := replaySafe (Act.create (Indexed.Event.ofChain e))

/-- Records the data of a height, observed at the time of its block. -/
def run (parse : String → Script.Outcome) (classifier : Classifier) (data : BlockData) :
    Act ItemCounts := do
  let block ← (recordBlock data.block).result
  let transactions ← Attempt.forEach (recordTransaction parse data.block) data.transactions
  let events ← Attempt.forEach recordEvent data.events
  let dispatched ← Attempt.forEach (Meaning.dispatch classifier data.block.timestamp) data.events
  match block with
  | .error e => throw e
  | .ok () =>
    let counts : ItemCounts := {
      transactions := Attempt.successes transactions
      events := Attempt.successes events
      dispatched := Attempt.successes dispatched
      failed := 0 }
    let total := transactions.length + events.length + dispatched.length
    return { counts with failed := total - (counts.transactions + counts.events + counts.dispatched) }

end Recording

end ChainIndex
