import ChainIndex.Error
import ChainIndex.Indexed.Record

/-!
# Indexes

An index is a table of records of one kind. Creating a record needs an id that is not taken, and
updating one an id that is; upserting replaces whatever is there, and deleting an absent record
changes nothing. A record stays under the id it was created with.
-/

set_option autoImplicit false

namespace ChainIndex.Index

open Indexed (Entity)

variable {α π : Type} [Entity α π]

/-- A record in words: its kind and its id. -/
def describe (α : Type) {π : Type} [Entity α π] (id : String) : String := Entity.kind α ++ " " ++ id

def create (a : α) (t : Table String α) : Except Error (Table String α) :=
  if t.contains (Entity.id a) then .error (.alreadyExists (describe α (Entity.id a)))
  else .ok (t.insert (Entity.id a) a)

def update (id : String) (patch : π) (t : Table String α) : Except Error (Table String α) :=
  match t.get? id with
  | some a => .ok (t.insert id (Entity.patch patch a))
  | none => .error (.notFound (describe α id))

def upsert (a : α) (t : Table String α) : Table String α := t.insert (Entity.id a) a

def delete (id : String) (t : Table String α) : Table String α := t.erase id

end ChainIndex.Index
