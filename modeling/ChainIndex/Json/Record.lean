import ChainIndex.Json
import ChainIndex.Time.Timestamp

/-!
# Records in JSON

`JsonForm α` gives the values of a type a JSON form. A record is written as an object with its
fields in the order of their declaration. It is read from an object, whose unknown fields are
ignored and in which a field may stand only once, or from a list of its fields in the order of their
declaration. `Reader` reads one field after the other from either.
-/

set_option autoImplicit false

namespace ChainIndex

class JsonForm (α : Type) where
  toJson : α → Json
  /-- `none` if the value is not one of the type's forms. -/
  ofJson? : Json → Option α

export JsonForm (toJson ofJson?)

instance : JsonForm String where
  toJson := .string
  ofJson? := Json.string?

instance : JsonForm Bool where
  toJson := .bool
  ofJson? := Json.bool?

instance : JsonForm UInt64 where
  toJson n := .number (.natural n)
  ofJson? := Json.natural?

/-- The number of a nonnegative integer literal below a bound. -/
def Json.naturalBelow? (bound : Nat) (j : Json) : Option Nat :=
  match j.natural? with
  | some n => if n.toNat < bound then some n.toNat else none
  | none => none

instance : JsonForm UInt32 where
  toJson n := .number (.natural n.toUInt64)
  ofJson? j := (j.naturalBelow? UInt32.size).map UInt32.ofNat

instance : JsonForm UInt8 where
  toJson n := .number (.natural n.toUInt64)
  ofJson? j := (j.naturalBelow? UInt8.size).map UInt8.ofNat

instance : JsonForm Int64 where
  toJson n :=
    if 0 ≤ n.toInt then .number (.natural n.toUInt64)
    else .number (.negative (Fin.ofNat _ (-n.toInt - 1).toNat))
  ofJson?
    | .number (.natural n) => if n.toNat < 9223372036854775808 then some (Int64.ofNat n.toNat) else none
    | .number (.negative n) => some (Int64.ofInt (-(n.val + 1)))
    | _ => none

instance : JsonForm Data where
  toJson d := d.json
  ofJson? j := some (.ofJson j)

instance : JsonForm Timestamp where
  toJson t := .string t.text
  ofJson? j := j.string?.bind Timestamp.ofText?

variable {α : Type}

/-- Reads every item, or nothing. -/
def readItems? (read : Json → Option α) : List Json → Option (List α)
  | [] => some []
  | item :: rest =>
    match read item, readItems? read rest with
    | some a, some as => some (a :: as)
    | _, _ => none

instance [JsonForm α] : JsonForm (List α) where
  toJson l := .array (l.map toJson)
  ofJson? j := j.array?.bind (readItems? ofJson?)

instance [JsonForm α] : JsonForm (Option α) where
  toJson
    | some a => toJson a
    | none => .null
  ofJson?
    | .null => some none
    | j => (ofJson? j).map some

/-- Reads every value, or nothing. -/
def readValues? (read : Json → Option α) : List (String × Json) → Option (List (String × α))
  | [] => some []
  | (name, value) :: rest =>
    match read value, readValues? read rest with
    | some a, some as => some ((name, a) :: as)
    | _, _ => none

instance [JsonForm α] : JsonForm (Table String α) where
  toJson t := .object (t.entries.map fun e => (e.1, toJson e.2))
  ofJson?
    | .object fields => (readValues? ofJson? fields).map Table.ofList
    | _ => none

/-- The name in a value of an enumeration: a string, or an object whose one field is null. -/
def Json.choice? : Json → Option String
  | .string name => some name
  | .object [(name, .null)] => some name
  | _ => none

/-! ### Reading the fields of a record -/

/-- The fields of a record that are still to be read. -/
inductive Row where
  | named (fields : List (String × Json))
  | listed (items : List Json)

def Row.ofJson? : Json → Option Row
  | .object fields => some (.named fields)
  | .array items => some (.listed items)
  | _ => none

/-- The value for the field called `name`, if there is one, and the row after it. A name that
stands twice is refused. -/
def Row.next? (name : String) : Row → Option (Option Json × Row)
  | .named fields =>
    match fields.filter (fun f => f.1 = name) with
    | [] => some (none, .named fields)
    | [(_, value)] => some (some value, .named fields)
    | _ => none
  | .listed [] => some (none, .listed [])
  | .listed (value :: rest) => some (some value, .listed rest)

def Row.isNamed : Row → Bool
  | .named _ => true
  | .listed _ => false

/-- Reads fields of a record, one after the other. -/
abbrev Reader (α : Type) := StateT Row Option α

namespace Reader

/-- A field that has to be there. -/
def field [JsonForm α] (name : String) : Reader α := fun row =>
  match row.next? name with
  | some (some value, rest) => (ofJson? value).map fun a => (a, rest)
  | _ => none

/-- A field with a value of its own where it is left out. -/
def fieldOr [JsonForm α] (name : String) (absent : α) : Reader α := fun row =>
  match row.next? name with
  | some (some value, rest) => (ofJson? value).map fun a => (a, rest)
  | some (none, rest) => some (absent, rest)
  | none => none

/-- A field that may be null, and that an object may leave out. -/
def nullable [JsonForm α] (name : String) : Reader (Option α) := fun row =>
  match row.next? name with
  | some (some value, rest) => (ofJson? value).map fun a => (a, rest)
  | some (none, rest) => if row.isNamed then some (none, rest) else none
  | none => none

/-- Reads a record: no item of a list may be left over. -/
def run? (read : Reader α) (j : Json) : Option α :=
  match (Row.ofJson? j).bind read with
  | some (a, .named _) => some a
  | some (a, .listed []) => some a
  | _ => none

end Reader

end ChainIndex
