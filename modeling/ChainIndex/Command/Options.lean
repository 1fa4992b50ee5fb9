import ChainIndex.Command.Log

/-!
# Options of a replay

The arguments of a replay are read from left to right. An option that takes a value takes the next
argument, whatever it is. An argument that begins with `--` and is no option is refused; every other
one is the path of the chain data, and of several the last one counts.
-/

set_option autoImplicit false

namespace ChainIndex.Command

structure Options where
  /-- The path of the configuration. -/
  config : Option String
  /-- The place of the archive that holds the index. -/
  archive : Option String
  log : LogSettings
  /-- Goes on after the head is reached. -/
  follows : Bool
  deriving DecidableEq

namespace Options

def default : Options := ⟨none, none, .default, false⟩

/-- Why arguments are no options. -/
inductive Problem where
  | missingValue (option : String)
  /-- The value of `--log` has no level. -/
  | missingLevel (value : String)
  | unknown (option : String)
  | missingSnapshot
  deriving DecidableEq

def Problem.message : Problem → String
  | missingValue option => option ++ " needs a value"
  | missingLevel value => "--log expects <crate>=<level>, got " ++ value
  | unknown option => "unknown option: " ++ option
  | missingSnapshot => "replay needs a fixture file"

/-- An option that takes a value. -/
inductive Setting where
  | config
  | archive
  | logLevel
  | log
  deriving DecidableEq

def Setting.ofText? (s : String) : Option Setting :=
  if s = "--config" then some config
  else if s = "--sqlite" then some archive
  else if s = "--log-level" then some logLevel
  else if s = "--log" then some log
  else none

/-- A component and its level, which stands behind the first `=`. -/
def assignment? (s : String) : Option (String × String) :=
  let chars := s.toList
  match chars.dropWhile (· != '=') with
  | [] => none
  | _ :: level => some (String.ofList (chars.takeWhile (· != '=')), String.ofList level)

def set (setting : Setting) (value : String) (o : Options) : Except Problem Options :=
  match setting with
  | .config => .ok { o with config := some value }
  | .archive => .ok { o with archive := some value }
  | .logLevel => .ok { o with log := { o.log with level := value } }
  | .log =>
    match assignment? value with
    | some (component, level) =>
      .ok { o with log := { o.log with components := o.log.components.insert component level } }
    | none => .error (.missingLevel value)

def isOption (s : String) : Bool := ['-', '-'].isPrefixOf s.toList

/-- Takes an argument that has no value, given the options and the path so far. -/
def take (argument : String) (o : Options) (path : Option String) :
    Except Problem (Options × Option String) :=
  if argument = "--json-logs" then .ok ({ o with log := { o.log with json := true } }, path)
  else if argument = "--follow" then .ok ({ o with follows := true }, path)
  else if isOption argument then .error (.unknown argument)
  else .ok (o, some argument)

/-- Reads arguments, given the options and the path so far. -/
def collect (o : Options) (path : Option String) :
    List String → Except Problem (Options × Option String)
  | [] => .ok (o, path)
  | [argument] =>
    match Setting.ofText? argument with
    | some _ => .error (.missingValue argument)
    | none => take argument o path
  | argument :: next :: rest =>
    match Setting.ofText? argument with
    | some setting => do
      let o ← o.set setting next
      collect o path rest
    | none => do
      let (o, path) ← take argument o path
      collect o path (next :: rest)

/-- The path of the chain data and the options. -/
def ofArguments (arguments : List String) : Except Problem (String × Options) := do
  let (o, path) ← collect default none arguments
  match path with
  | some path => .ok (path, o)
  | none => .error .missingSnapshot

end Options

end ChainIndex.Command
