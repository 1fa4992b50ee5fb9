/-!
# Runs of code points

A property with a value for every code point is a sorted list of runs: each says where it begins and
which value the code points have from there up to the next run. A table of the Unicode standard is
written as lines of words: for each run its first code point in hexadecimal and the value, which
begins with a capital letter.
-/

set_option autoImplicit false

namespace ChainIndex.Text

def hexDigitValue (c : Char) : Nat :=
  if c ≤ '9' then c.toNat - 48 else c.toNat - 87

def isHexDigit (c : Char) : Bool := ('0' ≤ c && c ≤ '9') || ('a' ≤ c && c ≤ 'f')

/-- The number that hexadecimal digits in small letters stand for. -/
def hexValue (digits : List Char) : Nat := digits.foldl (fun n c => 16 * n + hexDigitValue c) 0

/-- Searches the entries from `low` up to below `high`, halving them at each step, for the last one
that begins at `n` or before; `found` is the best one so far. -/
def searchLast {α : Type} (entries : Array (Nat × α)) (n : Nat) (found : Option (Nat × α)) :
    Nat → Nat → Nat → Option (Nat × α)
  | 0, _, _ => found
  | steps + 1, low, high =>
    if low < high then
      let middle := (low + high) / 2
      match entries[middle]? with
      | some entry =>
        if entry.1 ≤ n then searchLast entries n (some entry) steps (middle + 1) high
        else searchLast entries n found steps low middle
      | none => found
    else found

/-- The last of the sorted entries that begins at `n` or before. -/
def lastAtMost? {α : Type} (entries : Array (Nat × α)) (n : Nat) : Option (Nat × α) :=
  searchLast entries n none (entries.size + 1) 0 entries.size

/-- The words of a line between single blanks; `word` is the one being read, reversed. -/
def lineWords (word : List Char) : List Char → List (List Char)
  | [] => [word.reverse]
  | ' ' :: rest => word.reverse :: lineWords [] rest
  | c :: rest => lineWords (c :: word) rest

/-- The words of the lines of a table. -/
def tableWords (lines : List String) : List (List Char) :=
  lines.flatMap fun line => lineWords [] line.toList

/-- Sorted runs, each with its first code point and its value. -/
abbrev Runs := Array (Nat × String)

namespace Runs

def run (word : List Char) : Nat × String :=
  let (digits, label) := word.span isHexDigit
  (hexValue digits, String.ofList label)

def ofLines (lines : List String) : Runs := ((tableWords lines).map run).toArray

/-- The value of a code point; empty before the first run. -/
def label (runs : Runs) (n : Nat) : String := ((lastAtMost? runs n).map (·.2)).getD ""

end Runs

end ChainIndex.Text
