import ChainIndex.Abort
import ChainIndex.Json.Record
import ChainIndex.Text.Word

/-!
# Signatures of scripts

The parameters that a transaction or a script declares, read from its source text without parsing
the rest of it. The parameter list is the one of the first `transaction (…)` that is followed by a
body or by a phase, else that of the first `fun main (…)` followed by a type or a body; a
`transaction` without a list has no parameters.
-/

set_option autoImplicit false

namespace ChainIndex.Script

structure Parameter where
  identifier : String
  type : String
  deriving DecidableEq

/-- What a script declares about its arguments. -/
structure Interaction where
  parameters : List Parameter
  deriving DecidableEq

instance : JsonForm Parameter where
  toJson p := .object [("identifier", toJson p.identifier), ("type", toJson p.type)]
  ofJson? := Reader.run? do
    let identifier ← Reader.field "identifier"
    let type ← Reader.field "type"
    return { identifier, type }

instance : JsonForm Interaction where
  toJson i := .object [("parameters", toJson i.parameters)]
  ofJson? := Reader.run? do
    let parameters ← Reader.field "parameters"
    return { parameters }

/-- What is known after reading a script: an error may come with the part read before it. -/
structure Outcome where
  interaction : Option Interaction
  error : Option String
  deriving DecidableEq

def Outcome.failed (reason : String) : Outcome := ⟨none, some reason⟩

/-! ### Finding the parameter list -/

/-- The text after `start`, if it begins with `start`. -/
def after? : List Char → List Char → Option (List Char)
  | [], text => some text
  | _ :: _, [] => none
  | s :: start, c :: text => if s = c then after? start text else none

/-- The first answer of `find` on the rests of a text, each given with the character before it. -/
def search {α : Type} (find : Option Char → List Char → Option α) (before : Option Char)
    (text : List Char) : Option α :=
  match find before text with
  | some found => some found
  | none =>
    match text with
    | [] => none
    | c :: rest => search find (some c) rest

/-- The text after a word that begins here. -/
def word? (word : String) (before : Option Char) (text : List Char) : Option (List Char) :=
  if before.any Text.isWord then none else after? word.toList text

/-- The text up to the first closing parenthesis whose rest is accepted; `read` is kept reversed. -/
def closing? (accept : List Char → Bool) (read : List Char) : List Char → Option (List Char)
  | [] => none
  | c :: rest =>
    if c = ')' ∧ accept rest = true then some read.reverse else closing? accept (c :: read) rest

/-- A parenthesised list after blanks. -/
def list? (accept : List Char → Bool) (text : List Char) : Option (List Char) :=
  match Text.trimLeft text with
  | '(' :: rest => closing? accept [] rest
  | _ => none

/-- What follows the list of a transaction: its body, or the name of a phase. -/
def isTransactionRest (text : List Char) : Bool :=
  let rest := Text.trimLeft text
  Text.startsWith ['\x7b'] rest || Text.startsWith "prepare".toList rest
    || Text.startsWith "execute".toList rest

/-- What follows the list of a function: its type or its body. -/
def isFunctionRest (text : List Char) : Bool :=
  let rest := Text.trimLeft text
  Text.startsWith [':'] rest || Text.startsWith ['\x7b'] rest

def transactionList? (before : Option Char) (text : List Char) : Option (List Char) :=
  (word? "transaction" before text).bind (list? isTransactionRest)

/-- The empty list of a transaction whose name is followed by its body. -/
def bareTransaction? (before : Option Char) (text : List Char) : Option (List Char) :=
  match (word? "transaction" before text).map Text.trimLeft with
  | some ('\x7b' :: _) => some []
  | _ => none

def mainList? (before : Option Char) (text : List Char) : Option (List Char) :=
  match word? "fun" before text with
  | some (c :: rest) =>
    if Text.isBlank c then
      (after? "main".toList (Text.trimLeft rest)).bind (list? isFunctionRest)
    else none
  | _ => none

def parameterList? (source : List Char) : Option (List Char) :=
  match search transactionList? none source with
  | some list => some list
  | none =>
    match search bareTransaction? none source with
    | some list => some list
    | none => search mainList? none source

/-! ### Reading the parameter list -/

def isOpening (c : Char) : Bool := c = '\x7b' || c = '[' || c = '(' || c = '<'

def isClosing (c : Char) : Bool := c = '\x7d' || c = ']' || c = ')' || c = '>'

/-- The depth of the brackets behind a character. It is counted in a word; where it leaves the words the
reading aborts. -/
def depthAfter (depth : Int32) (c : Char) : Except Abort Int32 :=
  if isOpening c then
    if depth = Int32.maxValue then .error .depthOverflow else .ok (depth + 1)
  else if isClosing c then
    if depth = Int32.minValue then .error .depthUnderflow else .ok (depth - 1)
  else .ok depth

/-- The parts between the commas at depth zero; `part` is the one being read, reversed. -/
def splitParts (depth : Int32) (part : List Char) : List Char → Except Abort (List (List Char))
  | [] => .ok [part.reverse]
  | c :: rest =>
    if c = ',' ∧ depth = 0 then (splitParts depth [] rest).map (part.reverse :: ·)
    else
      match depthAfter depth c with
      | .ok depth => splitParts depth (c :: part) rest
      | .error abort => .error abort

/-- The parts between the commas outside of brackets, without the blank ones. -/
def splitTopLevel (list : List Char) : Except Abort (List (List Char)) :=
  (splitParts 0 [] list).map fun parts => parts.filter fun part => !Text.isBlankText part

/-- The texts before and after the first colon. -/
def atColon? (text : List Char) : Option (List Char × List Char) :=
  match text.span (· ≠ ':') with
  | (label, _ :: type) => some (label, type)
  | (_, []) => none

/-- A parameter is written `identifier: type`; a label may stand before the identifier. -/
def parameter? (text : List Char) : Option Parameter :=
  match atColon? text with
  | none => none
  | some (label, type) =>
    match (Text.words label).getLast? with
    | none => none
    | some identifier =>
      if (Text.trim type).isEmpty then none
      else some ⟨String.ofList identifier, String.ofList (Text.trim type)⟩

/-- Reads parameters up to the first malformed one; `read` are those before, reversed. -/
def readParameters (read : List Parameter) : List (List Char) → Outcome
  | [] => ⟨some ⟨read.reverse⟩, none⟩
  | part :: rest =>
    match parameter? part with
    | some p => readParameters (p :: read) rest
    | none =>
      ⟨some ⟨read.reverse⟩,
        some ("malformed parameter: `" ++ String.ofList (Text.trim part) ++ "`")⟩

/-- The signature of a script. -/
def read (source : String) : Except Abort Outcome :=
  match parameterList? source.toList with
  | none => .ok (.failed "no transaction or main declaration found")
  | some list => (splitTopLevel list).map (readParameters [])

/-- Reads signatures for an indexer, which asks for an outcome of every script: where reading aborts,
nothing is known of the script. -/
def parse (source : String) : Outcome :=
  match read source with
  | .ok outcome => outcome
  | .error abort => .failed abort.message

end ChainIndex.Script
