import ChainIndex.Json.Record

/-!
# Log settings

How severe a message has to be to be logged, in general and for single components.
-/

set_option autoImplicit false

namespace ChainIndex.Command

structure LogSettings where
  level : String
  /-- The levels of the components that have one of their own, by name. -/
  components : Table String String
  /-- Each message is a line of JSON. -/
  json : Bool
  deriving DecidableEq

namespace LogSettings

def default : LogSettings := ⟨"info", .empty, false⟩

/-- A component's name as it stands in a directive, where `_` takes the place of `-`. -/
def target (component : String) : String :=
  String.ofList (component.toList.map fun c => if c = '-' then '_' else c)

def directive (component level : String) : String := "," ++ target component ++ "=" ++ level

/-- The general level, and the levels of the components in the order of their names. -/
def directives (s : LogSettings) : String :=
  s.level ++ String.join (s.components.entries.map fun e => directive e.1 e.2)

/-- Every field may be left out. -/
instance : JsonForm LogSettings where
  toJson s := .object [
    ("level", toJson s.level), ("components", toJson s.components), ("json", toJson s.json)]
  ofJson? := Reader.run? do
    let level ← Reader.fieldOr "level" default.level
    let components ← Reader.fieldOr "components" default.components
    let json ← Reader.fieldOr "json" default.json
    return { level, components, json }

end LogSettings

end ChainIndex.Command
