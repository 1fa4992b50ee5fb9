import ChainIndex.Command.Disk
import ChainIndex.Command.Help
import ChainIndex.Command.Location
import ChainIndex.Command.Options
import ChainIndex.Replay

/-!
# The command

The command replays a file of chain data into an index and prints what the index holds, or it tells
about itself. The index is kept in an archive if a place for one is given.
-/

set_option autoImplicit false

namespace ChainIndex.Command

/-- What a command writes, and the code it ends with. -/
structure Output where
  code : UInt8
  stdout : String
  stderr : String
  deriving DecidableEq

/-- Why a replay could not be made. -/
inductive Failure where
  | options (problem : Options.Problem)
  /-- There is no text at a path. -/
  | unreadable (path : String)
  /-- The text at a path is not what it should be. -/
  | malformed (path : String)
  | error (e : Error)
  | aborted (a : Abort)
  deriving DecidableEq

def heightText : Option UInt64 → String
  | none => "None"
  | some height => "Some(" ++ Decimal.text height.toNat ++ ")"

/-- An object with a field on each line. -/
def summaryText (s : Summary) : String :=
  let fields : List (String × Json) := [
    ("last_indexed_height", toJson s.lastIndexedHeight), ("blocks", .ofNat s.blocks),
    ("transactions", .ofNat s.transactions), ("events", .ofNat s.events),
    ("accounts", .ofNat s.accounts), ("account_keys", .ofNat s.keys),
    ("contracts", .ofNat s.contracts), ("storage_items", .ofNat s.storageItems),
    ("dispatched", .ofNat s.dispatched), ("failed_dispatches", .ofNat s.failedDispatches)]
  let line (field : String × Json) : String := "  " ++ (Json.string field.1).text ++ ": " ++ field.2.text
  "\x7b\n" ++ ",\n".intercalate (fields.map line) ++ "\n\x7d\n"

namespace Output

def success (stdout : String) : Output := ⟨0, stdout, ""⟩

/-- The output of a command that fails with a reason. -/
def failed (stdout reason : String) : Output := ⟨1, stdout, lines ["Error: " ++ reason]⟩

/-- The reason of an abort stands behind an empty line. -/
def ofFailure : Failure → Output
  | .options problem => failed "" problem.message
  | .unreadable path => failed "" ("reading " ++ path)
  | .malformed path => failed "" ("parsing " ++ path)
  | .error e => failed "" e.message
  | .aborted a => ⟨101, "", lines ["", a.message]⟩

/-- A replay that does not end at the head fails, but its summary is printed. -/
def ofOutcome (o : Replay.Outcome) : Output :=
  if o.isComplete then success (summaryText o.summary)
  else failed (summaryText o.summary)
    ("stopped at height " ++ heightText o.summary.lastIndexedHeight
      ++ " before reaching head " ++ heightText o.head)

end Output

/-! ### Archives -/

def refuse (code : Nat) (reason : String) : Error :=
  .storage ("error returned from database: (code: " ++ Decimal.text code ++ ") " ++ reason)

def cannotOpen : Error := refuse 14 "unable to open database file"

def notArchive : Error := refuse 26 "file is not a database"

def notWritable : Error := refuse 8 "attempt to write a readonly database"

/-- The outages of a store that cannot be written. -/
def readOnlyOutages : Outages where
  call _ call :=
    match call with
    | .create _ _ | .update _ _ | .upsert _ _ | .delete _ _ => some notWritable
    | _ => none
  stream _ := none

variable {m : Type → Type} [Monad m]

abbrev Attempted (m : Type → Type) (α : Type) := ExceptT Failure m α

/-- Puts an archive at a path. -/
def putArchive (disk : Disk m) (path : String) (store : Store) : Attempted m Unit := do
  if !(← disk.put path store) then throw (.error cannotOpen)

/-- The store at a place. An empty text is an empty archive. -/
def openArchive (disk : Disk m) (l : Location) : Attempted m Store := do
  match l.path with
  | none => if l.access.readOnly then throw (.error notWritable) else return .empty
  | some path =>
    match ← disk.find? path with
    | some (.archive store) => return store
    | some (.text content) =>
      if !content.isEmpty then throw (.error notArchive)
      else if l.access.readOnly then throw (.error notWritable)
      else
        putArchive disk path .empty
        return .empty
    | none =>
      if l.access.creates && !l.access.readOnly then
        putArchive disk path .empty
        return .empty
      else throw (.error cannotOpen)

/-- Puts a store back to where it was opened. -/
def closeArchive (disk : Disk m) (l : Location) (store : Store) : Attempted m Unit :=
  match l.path with
  | some path => if l.access.readOnly then return else putArchive disk path store
  | none => return

/-! ### Replays -/

/-- The value that the text at a path has. -/
def load (disk : Disk m) (α : Type) [JsonForm α] (path : String) : Attempted m α := do
  match ← disk.find? path with
  | some (.text content) =>
    match (Json.parse? content).bind ofJson? with
    | some a => return a
    | none => throw (.malformed path)
  | _ => throw (.unreadable path)

def ofResult {ε α : Type} (failure : ε → Failure) : Except ε α → Attempted m α
  | .ok a => return a
  | .error e => throw (failure e)

/-- A replay into the store at a place, or into one that is not kept. -/
def replayAt (disk : Disk m) (clock : Timestamp) (snapshot : Chain.Snapshot) (config : Config)
    (follows : Bool) (l : Location) : Attempted m Replay.Outcome := do
  let store ← openArchive disk l
  let plan : Plan := { Plan.default with
    config, store, node := some (.ofSnapshot snapshot), readsStorage := true }
  let indexer ← ofResult .error (plan.build clock)
  let outages := if l.access.readOnly then readOnlyOutages else indexer.world.outages
  let indexer := { indexer with world := { indexer.world with outages } }
  let (result, store) := Replay.run follows indexer
  closeArchive disk l store
  ofResult .aborted result

def replay (disk : Disk m) (clock : Timestamp) (arguments : List String) :
    Attempted m Replay.Outcome := do
  let (path, o) ← ofResult .options (Options.ofArguments arguments)
  let snapshot ← load disk Chain.Snapshot path
  let config ← match o.config with
    | some path => load disk Config path
    | none => pure .default
  let location ← match o.archive with
    | some place => ofResult .error (Location.ofText place)
    | none => pure ⟨none, false, false⟩
  replayAt disk clock snapshot config o.follows location

/-! ### All commands -/

/-- Runs the command with its arguments at the time of the clock. -/
def run (disk : Disk m) (clock : Timestamp) : List String → m Output
  | [] => return ⟨1, usage, ""⟩
  | name :: arguments =>
    if name = "replay" then do
      match ← (replay disk clock arguments).run with
      | .ok outcome => return .ofOutcome outcome
      | .error failure => return .ofFailure failure
    else if name = "info" then return .success info
    else if name = "version" ∨ name = "--version" ∨ name = "-V" then return .success versionText
    else if name = "help" ∨ name = "--help" ∨ name = "-h" then return .success usage
    else return ⟨1, usage, lines ["Unknown command: " ++ name]⟩

end ChainIndex.Command
