import ChainIndex.Attempt
import ChainIndex.Indexed.Record

/-!
# Reconciliation

What has to be created, updated and deleted so that a stored collection becomes a given one. Entries
are told apart by a key. An entry that is in both collections is merged with the stored one, and it
is an update only if the merged entry differs from the stored one.
-/

set_option autoImplicit false

namespace ChainIndex

/-- The operations that lead from one collection to another. -/
structure Diff (α : Type) where
  create : List α
  update : List α
  delete : List α
  deriving DecidableEq

namespace Diff

variable {α κ : Type}

def empty : Diff α := ⟨[], [], []⟩

def isEmpty (d : Diff α) : Bool := d.create.isEmpty && d.update.isEmpty && d.delete.isEmpty

/-- The number of operations. -/
def size (d : Diff α) : Nat := d.create.length + d.update.length + d.delete.length

section
variable [Key κ] [BEq α]

/-- Goes through the incoming entries. Those of the stored ones that are left are deleted. -/
def collect (key : α → κ) (merge : α → α → α) (stored : Table κ α) : List α → Diff α
  | [] => { (empty : Diff α) with delete := stored.values }
  | incoming :: rest =>
    let others := collect key merge (stored.erase (key incoming)) rest
    match stored.get? (key incoming) with
    | none => { others with create := incoming :: others.create }
    | some old =>
      let merged := merge incoming old
      if merged == old then others else { others with update := merged :: others.update }

/-- The step from the stored entries to the incoming ones; `merge` says what an incoming entry takes
over from the stored one. Of stored entries with one key the last counts. -/
def reconcile (key : α → κ) (merge : α → α → α) (stored incoming : List α) : Diff α :=
  collect key merge (Table.ofList (stored.map fun a => (key a, a))) incoming

end

/-! ### Applying -/

/-- How many operations of each kind succeeded, and how many of all failed. -/
structure Report where
  created : Nat
  updated : Nat
  deleted : Nat
  failed : Nat
  deriving DecidableEq

variable {σ : Type}

/-- Makes all operations: creations first, then updates, then deletions. A failure stops none of the
others. -/
def apply (create update delete : α → Attempt σ Unit) (d : Diff α) : StateM σ Report := do
  let created := Attempt.successes (← Attempt.forEach create d.create)
  let updated := Attempt.successes (← Attempt.forEach update d.update)
  let deleted := Attempt.successes (← Attempt.forEach delete d.delete)
  return { created, updated, deleted, failed := d.size - (created + updated + deleted) }

end Diff

namespace Indexed.AccountKey

/-- The place of a key: its account and its index there. -/
def slot (k : AccountKey) : String × UInt32 := (k.address, k.index)

/-- A key from the chain takes over when the stored one was seen first and, if it has no private key
itself, its private key. -/
def merge (incoming stored : AccountKey) : AccountKey :=
  { incoming with
    privateKey := if incoming.privateKey.all String.isEmpty then stored.privateKey else incoming.privateKey
    createdAt := stored.createdAt }

end Indexed.AccountKey

end ChainIndex
