import ChainIndex.Json.Parser
import ChainIndex.Json.Printer
import ChainIndex.Store

/-!
# Files

A command finds texts and archives at paths and puts archives there. `Disk` says how, so that a
command can work with the files of a system as well as with a `Directory`, which is a value.
-/

set_option autoImplicit false

namespace ChainIndex.Command

inductive File where
  | text (content : String)
  /-- The records of an index. -/
  | archive (store : Store)
  deriving DecidableEq

structure Disk (m : Type → Type) where
  /-- The file at a path, if there is one that can be read. -/
  find? : String → m (Option File)
  /-- Puts an archive at a path; tells whether that could be done. -/
  put : String → Store → m Bool

/-! ### A directory -/

/-- Files by their names. -/
abbrev Directory := Table String File

namespace Directory

/-- The name of the file of a directory that a path from there leads to. -/
def name? (path : String) : Option String :=
  let parts := path.toList.splitOn '/'
  match parts, parts.getLast? with
  | [] :: _ :: _, _ => none
  | _, some last =>
    match parts.filter fun part => !(part.isEmpty || part == ['.']) with
    | [name] => if name = last ∧ name ≠ ['.', '.'] then some (String.ofList name) else none
    | _ => none
  | _, none => none

/-- The files of a directory as those of a disk. -/
def disk : Disk (StateM Directory) where
  find? path := return (name? path).bind (← get).get?
  put path store :=
    match name? path with
    | some name => do
      modify fun (d : Directory) => d.insert name (.archive store)
      return true
    | none => return false

end Directory

/-! ### Archives as text -/

instance : JsonForm Store where
  toJson s := .object [
    ("blocks", toJson s.blocks), ("transactions", toJson s.transactions),
    ("events", toJson s.events), ("accounts", toJson s.accounts), ("keys", toJson s.keys),
    ("contracts", toJson s.contracts), ("storage", toJson s.storageItems)]
  ofJson? := Reader.run? do
    let blocks ← Reader.field "blocks"
    let transactions ← Reader.field "transactions"
    let events ← Reader.field "events"
    let accounts ← Reader.field "accounts"
    let keys ← Reader.field "keys"
    let contracts ← Reader.field "contracts"
    let storageItems ← Reader.field "storage"
    return { blocks, transactions, events, accounts, keys, contracts, storageItems }

namespace File

/-- The file that a text is: an archive if it can be read as one. -/
def ofText (content : String) : File :=
  match (Json.parse? content).bind ofJson? with
  | some store => archive store
  | none => text content

end File

end ChainIndex.Command
