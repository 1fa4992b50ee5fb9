/-!
# Decimal notation of natural numbers

Writing (`Decimal.chars`, `Decimal.padded`) and reading (`Decimal.digits`, `Decimal.value`) of digit
strings. Only the ten ASCII digits are digits here.
-/

set_option autoImplicit false

namespace ChainIndex.Decimal

/-- The digits of a number without leading zeros; zero has the one digit `0`. -/
def chars (n : Nat) : List Char := Nat.toDigits 10 n

def text (n : Nat) : String := String.ofList (chars n)

/-- The digits of a number, with zeros in front up to the given width. -/
def padded (width n : Nat) : List Char :=
  List.replicate (width - (chars n).length) '0' ++ chars n

def isDigit (c : Char) : Bool := '0' ≤ c && c ≤ '9'

def digitValue (c : Char) : Nat := c.toNat - 48

/-- The number that a digit string stands for. -/
def value (digits : List Char) : Nat := digits.foldl (fun n c => 10 * n + digitValue c) 0

/-- The digits that a text begins with, and the rest of it. -/
def digits (text : List Char) : List Char × List Char := text.span isDigit

end ChainIndex.Decimal
