import ChainIndex.Decimal
import ChainIndex.Json

/-!
# Reading JSON

`Json.parse?` reads exactly the JSON texts whose arrays and objects are nested at most 127 deep,
whose strings hold no unpaired surrogate and whose numbers are not past the largest double. A
literal without point and exponent that fits a 64-bit integer is that integer, except for `-0`;
every other number is a double.
-/

set_option autoImplicit false

namespace ChainIndex

/-- A number as it is written. -/
structure Number.Literal where
  negative : Bool
  whole : List Char
  fraction : Option (List Char)
  exponent : Option Int

namespace Number

/-- Digits that no longer fit a 64-bit word are counted instead of read. -/
def takeWhole : Nat → Nat → List Char → Nat × Nat
  | read, dropped, [] => (read, dropped)
  | read, dropped, c :: rest =>
    let next := 10 * read + Decimal.digitValue c
    if dropped = 0 ∧ next < UInt64.size then takeWhole next 0 rest else takeWhole read (dropped + 1) rest

/-- Digits of a fraction are read as long as they fit a 64-bit word. -/
def takeFraction : Nat → Nat → List Char → Nat × Nat
  | read, places, [] => (read, places)
  | read, places, c :: rest =>
    let next := 10 * read + Decimal.digitValue c
    if next < UInt64.size then takeFraction next (places + 1) rest else (read, places)

def ofLiteral? (l : Literal) : Option Number :=
  let (whole, dropped) := takeWhole 0 0 l.whole
  match l.fraction, l.exponent, dropped with
  | none, none, 0 =>
    if l.negative = false then some (.natural (UInt64.ofNat whole))
    else if h : 0 < whole ∧ whole ≤ 9223372036854775808 then some (.negative ⟨whole - 1, by omega⟩)
    else (Double.nearest? true whole 1).map .double
  | fraction, exponent, dropped =>
    let (read, places) := takeFraction whole 0 (fraction.getD [])
    (Double.ofDecimal? l.negative read (dropped - places + exponent.getD 0)).map .double

end Number

namespace Json

def isBlank (c : Char) : Bool := c == ' ' || c == '\n' || c == '\r' || c == '\t'

def skipBlanks (text : List Char) : List Char := text.dropWhile isBlank

/-! ### Numbers -/

/-- At least one digit. -/
def digits1? (text : List Char) : Option (List Char × List Char) :=
  match Decimal.digits text with
  | ([], _) => none
  | found => some found

def wholePart? (text : List Char) : Option (List Char × List Char) :=
  match digits1? text with
  | some ('0' :: _ :: _, _) => none
  | other => other

def fractionPart? : List Char → Option (Option (List Char) × List Char)
  | '.' :: rest => (digits1? rest).map fun (digits, rest) => (some digits, rest)
  | text => some (none, text)

def exponentDigits? (sign : Int) (text : List Char) : Option (Option Int × List Char) :=
  (digits1? text).map fun (digits, rest) => (some (sign * (Decimal.value digits : Int)), rest)

def exponentPart? : List Char → Option (Option Int × List Char)
  | c :: rest =>
    if c = 'e' ∨ c = 'E' then
      match rest with
      | '+' :: rest => exponentDigits? 1 rest
      | '-' :: rest => exponentDigits? (-1) rest
      | rest => exponentDigits? 1 rest
    else some (none, c :: rest)
  | [] => some (none, [])

def unsignedNumber? (negative : Bool) (text : List Char) : Option (Number × List Char) := do
  let (whole, rest) ← wholePart? text
  let (fraction, rest) ← fractionPart? rest
  let (exponent, rest) ← exponentPart? rest
  let n ← Number.ofLiteral? { negative, whole, fraction, exponent }
  return (n, rest)

def number? : List Char → Option (Number × List Char)
  | '-' :: rest => unsignedNumber? true rest
  | text => unsignedNumber? false text

/-! ### Strings -/

def hexValue? (c : Char) : Option Nat :=
  if '0' ≤ c ∧ c ≤ '9' then some (c.toNat - 48)
  else if 'a' ≤ c ∧ c ≤ 'f' then some (c.toNat - 87)
  else if 'A' ≤ c ∧ c ≤ 'F' then some (c.toNat - 55)
  else none

def hex4? (a b c d : Char) : Option Nat := do
  let a ← hexValue? a
  let b ← hexValue? b
  let c ← hexValue? c
  let d ← hexValue? d
  return ((a * 16 + b) * 16 + c) * 16 + d

def simpleEscape? (c : Char) : Option Char :=
  if c = '"' then some '"'
  else if c = '\\' then some '\\'
  else if c = '/' then some '/'
  else if c = 'b' then some '\x08'
  else if c = 'f' then some '\x0c'
  else if c = 'n' then some '\n'
  else if c = 'r' then some '\r'
  else if c = 't' then some '\t'
  else none

def isHighSurrogate (unit : Nat) : Bool := 0xD800 ≤ unit && unit < 0xDC00

def isLowSurrogate (unit : Nat) : Bool := 0xDC00 ≤ unit && unit < 0xE000

/-- The characters up to the closing quote, and the text after it. -/
def stringBody? : List Char → Option (List Char × List Char)
  | '"' :: rest => some ([], rest)
  | '\\' :: 'u' :: a :: b :: c :: d :: '\\' :: 'u' :: a' :: b' :: c' :: d' :: rest => do
    let first ← hex4? a b c d
    if isHighSurrogate first then
      let second ← hex4? a' b' c' d'
      if isLowSurrogate second then
        let (more, rest) ← stringBody? rest
        return (Char.ofNat (0x10000 + (first - 0xD800) * 1024 + (second - 0xDC00)) :: more, rest)
      else none
    else if isLowSurrogate first then none
    else
      let (more, rest) ← stringBody? ('\\' :: 'u' :: a' :: b' :: c' :: d' :: rest)
      return (Char.ofNat first :: more, rest)
  | '\\' :: 'u' :: a :: b :: c :: d :: rest => do
    let unit ← hex4? a b c d
    if isHighSurrogate unit || isLowSurrogate unit then none
    else
      let (more, rest) ← stringBody? rest
      return (Char.ofNat unit :: more, rest)
  | '\\' :: e :: rest => do
    let c ← simpleEscape? e
    let (more, rest) ← stringBody? rest
    return (c :: more, rest)
  | c :: rest =>
    if c.toNat < 32 ∨ c = '\\' then none
    else do
      let (more, rest) ← stringBody? rest
      return (c :: more, rest)
  | [] => none
termination_by structural text => text

/-! ### Values -/

mutual

/-- A value after blanks, nested at most `depth` deep. -/
def value? (fuel depth : Nat) (text : List Char) : Option (Json × List Char) :=
  match fuel with
  | 0 => none
  | fuel + 1 =>
    match skipBlanks text with
    | 'n' :: 'u' :: 'l' :: 'l' :: rest => some (.null, rest)
    | 't' :: 'r' :: 'u' :: 'e' :: rest => some (.bool true, rest)
    | 'f' :: 'a' :: 'l' :: 's' :: 'e' :: rest => some (.bool false, rest)
    | '"' :: rest => (stringBody? rest).map fun (s, rest) => (.string (String.ofList s), rest)
    | '[' :: rest =>
      match depth with
      | 0 => none
      | depth + 1 =>
        match skipBlanks rest with
        | ']' :: rest => some (.array [], rest)
        | rest => (items? fuel depth rest).map fun (items, rest) => (.array items, rest)
    | '\x7b' :: rest =>
      match depth with
      | 0 => none
      | depth + 1 =>
        match skipBlanks rest with
        | '\x7d' :: rest => some (.object [], rest)
        | rest => (fields? fuel depth rest).map fun (fields, rest) => (.object fields, rest)
    | rest => (number? rest).map fun (n, rest) => (.number n, rest)
termination_by structural fuel

/-- One or more items and the closing bracket. -/
def items? (fuel depth : Nat) (text : List Char) : Option (List Json × List Char) :=
  match fuel with
  | 0 => none
  | fuel + 1 =>
    match value? fuel depth text with
    | none => none
    | some (item, rest) =>
      match skipBlanks rest with
      | ',' :: rest => (items? fuel depth rest).map fun (items, rest) => (item :: items, rest)
      | ']' :: rest => some ([item], rest)
      | _ => none
termination_by structural fuel

/-- One or more fields and the closing brace. -/
def fields? (fuel depth : Nat) (text : List Char) : Option (List (String × Json) × List Char) :=
  match fuel with
  | 0 => none
  | fuel + 1 =>
    match skipBlanks text with
    | '"' :: rest =>
      match stringBody? rest with
      | none => none
      | some (name, rest) =>
        match skipBlanks rest with
        | ':' :: rest =>
          match value? fuel depth rest with
          | none => none
          | some (value, rest) =>
            match skipBlanks rest with
            | ',' :: rest =>
              (fields? fuel depth rest).map fun (fields, rest) =>
                ((String.ofList name, value) :: fields, rest)
            | '\x7d' :: rest => some ([(String.ofList name, value)], rest)
            | _ => none
        | _ => none
    | _ => none
termination_by structural fuel

end

/-- How deep arrays and objects may be nested. -/
def maxDepth : Nat := 127

/-- The value that a text consists of. -/
def parse? (text : String) : Option Json :=
  let chars := text.toList
  match value? (2 * chars.length + 2) maxDepth chars with
  | some (j, rest) => if (skipBlanks rest).isEmpty then some j else none
  | none => none

end Json

end ChainIndex
