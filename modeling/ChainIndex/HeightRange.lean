import ChainIndex.Json.Record

/-!
# Ranges of heights

The heights of blocks that are still to be processed: from the first one after the highest indexed
block up to the head of the chain. Heights are 64-bit words; where counting them leaves the words
there is no answer.
-/

set_option autoImplicit false

namespace ChainIndex

structure HeightRange where
  next : UInt64
  /-- The head of the chain, which belongs to the range. -/
  latest : UInt64
  deriving DecidableEq

namespace HeightRange

/-- The number of heights, as a number of any size. -/
def count (r : HeightRange) : Nat := r.latest.toNat + 1 - r.next.toNat

def isEmpty (r : HeightRange) : Bool := r.latest < r.next

/-- The sum with one, if it is a word. -/
def succ? (n : UInt64) : Option UInt64 := if n.toNat + 1 < UInt64.size then some (n + 1) else none

/-- The range behind the last indexed height, or from height zero. -/
def after? (lastIndexed : Option UInt64) (latest : UInt64) : Option HeightRange :=
  match lastIndexed with
  | none => some ⟨0, latest⟩
  | some last => (succ? last).map fun next => ⟨next, latest⟩

/-- The number of heights, if it is a word. -/
def size? (r : HeightRange) : Option UInt64 :=
  if r.isEmpty then some 0 else succ? (r.latest - r.next)

/-- The first heights of the range, `n` of them if there are so many. -/
def firstHeights (r : HeightRange) (n : Nat) : List UInt64 :=
  (List.range (min n r.count)).map fun i => r.next + UInt64.ofNat i

/-- All heights in ascending order. -/
def heights (r : HeightRange) : List UInt64 := r.firstHeights r.count

instance : JsonForm HeightRange where
  toJson r := .object [("next", toJson r.next), ("latest", toJson r.latest)]
  ofJson? := Reader.run? do
    let next ← Reader.field "next"
    let latest ← Reader.field "latest"
    return { next, latest }

end HeightRange

end ChainIndex
