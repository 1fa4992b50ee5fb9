import ChainIndex.Error
import ChainIndex.Json.Printer

/-!
# Public keys in event payloads

An event carries a public key as a list of bytes, each an integer or the decimal text of one. It is
kept as hexadecimal text, two digits for a byte.
-/

set_option autoImplicit false

namespace ChainIndex.PublicKey

/-- The decimal text of a byte: a plus sign and leading zeros are allowed. -/
def byteOfText? (text : List Char) : Option UInt8 :=
  let digits := match text with
    | '+' :: rest => rest
    | text => text
  if digits ≠ [] ∧ digits.all Decimal.isDigit ∧ Decimal.value digits < 256 then
    some (UInt8.ofNat (Decimal.value digits))
  else none

def byteOfJson? : Json → Option UInt8
  | .number (.natural n) => if n.toNat < 256 then some n.toUInt8 else none
  | .string s => byteOfText? s.toList
  | _ => none

def byteChars (b : UInt8) : List Char := [hexDigit (b.toNat / 16), hexDigit (b.toNat % 16)]

/-- The key made of these bytes. -/
def ofBytes (bytes : List UInt8) : String := String.ofList (bytes.flatMap byteChars)

def readBytes : List Json → Except Error (List UInt8)
  | [] => .ok []
  | item :: rest =>
    match byteOfJson? item with
    | none => .error (.decode ("invalid public key byte: " ++ item.text))
    | some b => (readBytes rest).map (b :: ·)

/-- The key that a list of bytes stands for. -/
def ofJson (j : Json) : Except Error String :=
  match j with
  | .array items => (readBytes items).map ofBytes
  | _ => .error (.decode ("public key is not a byte list: " ++ j.text))

end ChainIndex.PublicKey
