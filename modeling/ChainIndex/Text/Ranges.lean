import ChainIndex.Text.Runs

/-!
# Sets of code points as ranges

A set of code points is a sorted list of disjoint ranges. A table of the Unicode standard is written
as lines of words: ranges `first-last` and single code points, in hexadecimal.
-/

set_option autoImplicit false

namespace ChainIndex.Text

/-- Sorted, disjoint ranges of code points, both ends included. -/
abbrev Ranges := Array (Nat × Nat)

namespace Ranges

def range (word : List Char) : Nat × Nat :=
  match word.span isHexDigit with
  | (first, '-' :: last) => (hexValue first, hexValue last)
  | (single, _) => (hexValue single, hexValue single)

def ofLines (lines : List String) : Ranges := ((tableWords lines).map range).toArray

def contains (ranges : Ranges) (n : Nat) : Bool :=
  match lastAtMost? ranges n with
  | some (_, last) => n ≤ last
  | none => false

end Ranges

end ChainIndex.Text
