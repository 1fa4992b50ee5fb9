import ChainIndex.Double.Shortest
import ChainIndex.Json

/-!
# Writing JSON

The compact form: no blanks, fields in the order in which they stand, and only those characters
escaped that a JSON string cannot hold.
-/

set_option autoImplicit false

namespace ChainIndex

/-- A lower-case hexadecimal digit. -/
def hexDigit (n : Nat) : Char := "0123456789abcdef".toList.getD n '0'

def Number.chars : Number → List Char
  | .natural n => Decimal.chars n.toNat
  | .negative n => '-' :: Decimal.chars (n.val + 1)
  | .double x => x.chars

namespace Json

def escapeChar (c : Char) : List Char :=
  if c = '"' then ['\\', '"']
  else if c = '\\' then ['\\', '\\']
  else if c = '\n' then ['\\', 'n']
  else if c = '\r' then ['\\', 'r']
  else if c = '\t' then ['\\', 't']
  else if c = '\x08' then ['\\', 'b']
  else if c = '\x0c' then ['\\', 'f']
  else if c.toNat < 32 then ['\\', 'u', '0', '0', hexDigit (c.toNat / 16), hexDigit (c.toNat % 16)]
  else [c]

def stringChars (s : String) : List Char := '"' :: (s.toList.flatMap escapeChar ++ ['"'])

mutual

def chars : Json → List Char
  | .null => ['n', 'u', 'l', 'l']
  | .bool true => ['t', 'r', 'u', 'e']
  | .bool false => ['f', 'a', 'l', 's', 'e']
  | .number n => n.chars
  | .string s => stringChars s
  | .array items => '[' :: (itemsChars items ++ [']'])
  | .object fields => '\x7b' :: (fieldsChars fields ++ ['\x7d'])
termination_by structural j => j

def itemsChars : List Json → List Char
  | [] => []
  | item :: rest => item.chars ++ moreItemsChars rest
termination_by structural l => l

def moreItemsChars : List Json → List Char
  | [] => []
  | item :: rest => ',' :: (item.chars ++ moreItemsChars rest)
termination_by structural l => l

def fieldsChars : List (String × Json) → List Char
  | [] => []
  | field :: rest => fieldChars field ++ moreFieldsChars rest
termination_by structural l => l

def moreFieldsChars : List (String × Json) → List Char
  | [] => []
  | field :: rest => ',' :: (fieldChars field ++ moreFieldsChars rest)
termination_by structural l => l

def fieldChars : String × Json → List Char
  | (name, value) => stringChars name ++ ':' :: value.chars
termination_by structural f => f

end

/-- The value as compact text. -/
def text (j : Json) : String := String.ofList j.chars

end Json

end ChainIndex
