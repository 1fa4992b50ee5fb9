import ChainIndex.Error

/-!
# Where an archive is

The place of an archive is given by a path or by a URL with the scheme `sqlite`. A URL has the path,
in which bytes may be written as `%` and two hexadecimal digits, and may have parameters behind a
`?`. The parameter `mode` says how the archive is opened.
-/

set_option autoImplicit false

namespace ChainIndex.Command

/-- How an archive is opened. -/
structure Access where
  /-- The archive is not changed. -/
  readOnly : Bool
  /-- The file is made if there is none. -/
  creates : Bool
  deriving DecidableEq

structure Location where
  /-- The path of the file; an archive that is not kept has none. -/
  path : Option String
  access : Access
  deriving DecidableEq

namespace Location

/-- The text behind all repetitions of `head` at its beginning. -/
def dropRepeated (head : List Char) (text : List Char) : List Char :=
  if h : head ≠ [] ∧ head.isPrefixOf text = true then
    have : text.length - head.length < text.length := by
      have short := (List.isPrefixOf_iff_prefix.mp h.2).length_le
      have := List.length_pos_iff.mpr h.1
      omega
    dropRepeated head (text.drop head.length)
  else text
termination_by text.length

def hexValue? (c : Char) : Option Nat :=
  if '0' ≤ c ∧ c ≤ '9' then some (c.toNat - '0'.toNat)
  else if 'a' ≤ c ∧ c ≤ 'f' then some (c.toNat - 'a'.toNat + 10)
  else if 'A' ≤ c ∧ c ≤ 'F' then some (c.toNat - 'A'.toNat + 10)
  else none

/-- The bytes of a text in which bytes may be written as `%` and two hexadecimal digits. -/
def bytes : List Char → List UInt8
  | '%' :: a :: b :: rest =>
    match hexValue? a, hexValue? b with
    | some high, some low => UInt8.ofNat (high * 16 + low) :: bytes rest
    | _, _ => '%'.toUInt8 :: bytes (a :: b :: rest)
  | c :: rest => String.utf8EncodeChar c ++ bytes rest
  | [] => []
termination_by text => text.length

/-- The text that these bytes are, if they are one. -/
def decoded? (text : List Char) : Option String := String.fromUTF8? ⟨(bytes text).toArray⟩

/-- The parts of a text before and behind the first `c`. -/
def cut (c : Char) (text : List Char) : List Char × List Char :=
  (text.takeWhile (· != c), (text.dropWhile (· != c)).drop 1)

def refuse {α : Type} (reason : String) : Except Error α :=
  .error (.storage ("error with configuration: " ++ reason))

def quoted (s : String) : String := "\"" ++ s ++ "\""

/-- Takes a parameter into account. -/
def set (name value : String) (l : Location) : Except Error Location :=
  if name = "mode" then
    if value = "ro" then .ok { l with access := { l.access with readOnly := true } }
    else if value = "rw" then .ok l
    else if value = "rwc" then .ok { l with access := { l.access with creates := true } }
    else if value = "memory" then .ok { l with path := none }
    else refuse ("unknown value " ++ quoted value ++ " for `mode`")
  else if name = "cache" then
    if value = "private" ∨ value = "shared" then .ok l
    else refuse ("unknown value " ++ quoted value ++ " for `cache`")
  else refuse ("unknown query parameter `" ++ name ++ "` while parsing connection URL")

/-- Takes parameters into account, which are divided by `&`. -/
def setAll : List (List Char) → Location → Except Error Location
  | [], l => .ok l
  | parameter :: rest, l =>
    if parameter.isEmpty then setAll rest l
    else
      let (name, value) := cut '=' parameter
      match decoded? name, decoded? value with
      | some name, some value => (l.set name value).bind (setAll rest)
      | _, _ => refuse "malformed parameter"

/-- The place that a URL gives. Without a file, or with the file `:memory:`, the archive is not kept. -/
def ofUrl (url : List Char) : Except Error Location :=
  let (file, parameters) :=
    cut '?' (dropRepeated "sqlite:".toList (dropRepeated "sqlite://".toList url))
  let parameters := parameters.splitOn '&'
  if file = [] ∨ file = ":memory:".toList then setAll parameters ⟨none, false, false⟩
  else
    match decoded? file with
    | some path => setAll parameters ⟨some path, false, false⟩
    | none => refuse "database filename is not valid UTF-8"

/-- The place that a URL or a path gives. The file at a path is made if there is none. -/
def ofText (s : String) : Except Error Location :=
  if "sqlite:".toList.isPrefixOf s.toList then ofUrl s.toList
  else ofUrl ("sqlite:".toList ++ s.toList ++ "?mode=rwc".toList)

end Location

end ChainIndex.Command
