import ChainIndex.Index
import ChainIndex.Json.Parser
import ChainIndex.Json.Printer

/-!
# Indexes of documents

A document index keeps each record as the text of its JSON form, under its id. It answers like an
index of records; a text that is no record of its kind is a decoding error.
-/

set_option autoImplicit false

namespace ChainIndex

/-- The texts of records by their ids. -/
abbrev Documents := Table String String

namespace Documents

open Indexed (Entity)

variable {α π : Type} [Entity α π] [JsonForm α]

def encode (a : α) : String := (toJson a).text

def decode (α : Type) [JsonForm α] (text : String) : Except Error α :=
  match (Json.parse? text).bind ofJson? with
  | some a => .ok a
  | none => .error (.decode "malformed document")

def findAll (α : Type) [JsonForm α] (d : Documents) : Except Error (List α) :=
  d.values.mapM (decode α)

def find (α : Type) [JsonForm α] (id : String) (d : Documents) : Except Error (Option α) :=
  match d.get? id with
  | some text => (decode α text).map some
  | none => .ok none

def create (a : α) (d : Documents) : Except Error Documents :=
  if d.contains (Entity.id a) then .error (.alreadyExists (Index.describe α (Entity.id a)))
  else .ok (d.insert (Entity.id a) (encode a))

def update (α : Type) {π : Type} [Entity α π] [JsonForm α] (id : String) (patch : π) (d : Documents) :
    Except Error Documents :=
  match d.get? id with
  | some text => (decode α text).map fun a => d.insert id (encode (Entity.patch patch a))
  | none => .error (.notFound (Index.describe α id))

def upsert (a : α) (d : Documents) : Documents := d.insert (Entity.id a) (encode a)

def delete (id : String) (d : Documents) : Documents := d.erase id

end Documents

end ChainIndex
