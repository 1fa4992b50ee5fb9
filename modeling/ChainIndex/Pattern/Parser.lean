import ChainIndex.Decimal
import ChainIndex.Pattern
import ChainIndex.Pattern.Property

/-!
# The notation of patterns

`Pattern.parse` reads the text of a pattern. Flags in a group hold to the end of the group; they
change what the notation after them means, so the scanner carries them. Besides texts that are no
patterns, it refuses those that nest too deeply or become too large.
-/

set_option autoImplicit false

namespace ChainIndex.Pattern

structure Flags where
  /-- `i`: case does not count. -/
  caseless : Bool
  /-- `m`: `^` and `$` stand for the ends of lines. -/
  multiLine : Bool
  /-- `s`: `.` stands for the end of a line too. -/
  dotAll : Bool
  /-- `u`: classes are those of Unicode, not of ASCII. -/
  unicode : Bool
  /-- `R`: a carriage return also ends a line. -/
  returns : Bool
  /-- `x`: blanks and comments do not count. -/
  spaced : Bool
  deriving DecidableEq

/-- The state of a reading. -/
structure Scan where
  rest : List Char
  flags : Flags
  /-- The names of the groups so far. -/
  names : List (List Char)

abbrev Scanner (α : Type) := StateT Scan Option α

/-- A pattern that was read, with the depth of its nesting. -/
structure Piece where
  pattern : Pattern
  depth : Nat
  /-- A change of flags, which cannot be repeated. -/
  isFlags : Bool := false

/-- What an escape sequence stands for. -/
inductive Escape where
  | literal (c : Char)
  /-- A character given by two hexadecimal digits. -/
  | byte (c : Char)
  | set (s : CharSet)
  | look (l : Look)

namespace Scanner

/-! ### Characters -/

/-- The text without ignored blanks and comments in front of it. -/
def dropSpace (inComment : Bool) : List Char → List Char
  | [] => []
  | c :: rest =>
    if inComment then dropSpace (c != '\n') rest
    else if Text.isBlank c then dropSpace false rest
    else if c = '#' then dropSpace true rest
    else c :: rest

def rest : Scanner (List Char) := return (← get).rest

def flags : Scanner Flags := return (← get).flags

def setRest (rest : List Char) : Scanner Unit := modify fun s => { s with rest }

def setFlags (flags : Flags) : Scanner Unit := modify fun s => { s with flags }

/-- Passes over blanks and comments where they are ignored. -/
def skipSpace : Scanner Unit := do
  if (← flags).spaced then setRest (dropSpace false (← rest))

def next : Scanner Char := do
  match ← rest with
  | c :: rest =>
    setRest rest
    return c
  | [] => failure

/-- The next character, which is left where it is. -/
def peek? : Scanner (Option Char) := return (← rest).head?

/-- The next character; there has to be one. -/
def peek : Scanner Char := do
  match (← rest).head? with
  | some c => return c
  | none => failure

/-- Passes over one character and over ignored blanks behind it. -/
def pass : Scanner Unit := do
  let _ ← next
  skipSpace

/-- The character after the next one, but for ignored blanks. -/
def peekBehind? : Scanner (Option Char) := do
  let behind := (← rest).drop 1
  return (if (← flags).spaced then dropSpace false behind else behind).head?

/-- Passes over a text if it comes next. -/
def passText (text : String) : Scanner Bool := do
  let chars := text.toList
  let rest ← rest
  if chars.isPrefixOf rest then
    setRest (rest.drop chars.length)
    return true
  else return false

/-- The characters up to one that does not qualify; blanks between them are ignored as usual. -/
def run (qualifies : Char → Bool) : Nat → Scanner (List Char)
  | 0 => return []
  | fuel + 1 => do
    match ← peek? with
    | some c =>
      if qualifies c then
        pass
        return c :: (← run qualifies fuel)
      else return []
    | none => return []

def runAll (qualifies : Char → Bool) : Scanner (List Char) := do
  run qualifies (← rest).length

def fail {α : Type} : Scanner α := fun _ => none

def require (condition : Bool) : Scanner Unit := if condition then return else fail

/-- The value that has to be there. -/
def demand {α : Type} (value : Option α) : Scanner α :=
  match value with
  | some a => return a
  | none => fail

/-! ### Literals and classes -/

/-- The set of one character of the text. -/
def literalSet (flags : Flags) (c : Char) : CharSet :=
  if flags.caseless then
    if flags.unicode then .caseless (.single c) else .asciiCaseless (.single c)
  else .single c

/-- The set under the flags for case, and its complement if it is negated. Without Unicode classes no
complement is allowed: it would hold parts of characters. -/
def finishSet (flags : Flags) (negated : Bool) (set : CharSet) : Scanner CharSet := do
  let set :=
    if flags.caseless then if flags.unicode then .caseless set else .asciiCaseless set else set
  if negated then
    require flags.unicode
    return .compl set
  else return set

def hexDigit? (c : Char) : Option Nat :=
  if Decimal.isDigit c then some (Decimal.digitValue c)
  else if 'a' ≤ c ∧ c ≤ 'f' then some (c.toNat - 87)
  else if 'A' ≤ c ∧ c ≤ 'F' then some (c.toNat - 55)
  else none

/-- The character with the code point that hexadecimal digits give. -/
def charOfHex? (digits : List Char) : Option Char := do
  let values ← digits.mapM hexDigit?
  let code := values.foldl (fun n d => 16 * n + d) 0
  if h : code.isValidChar then return Char.ofNatAux code h else none

/-- Exactly `n` characters. -/
def take : Nat → Scanner (List Char)
  | 0 => return []
  | n + 1 => do
    let c ← peek
    pass
    return c :: (← take n)

/-- A code point in hexadecimal: in braces, or of a number of digits that the letter fixes. -/
def hexEscape (letter : Char) : Scanner Escape := do
  pass
  if (← peek) = '\x7b' then
    pass
    let digits ← runAll (· ≠ '\x7d')
    let _ ← peek
    pass
    require !digits.isEmpty
    return .literal (← demand (charOfHex? digits))
  else
    let c ← demand (charOfHex? (← take (if letter = 'x' then 2 else if letter = 'u' then 4 else 8)))
    return if letter = 'x' then .byte c else .literal c

/-- The texts around the first place where `mark` stands. -/
def splitAt? (mark : List Char) (before : List Char) : List Char → Option (List Char × List Char)
  | [] => none
  | c :: rest =>
    if mark.isPrefixOf (c :: rest) then some (before.reverse, (c :: rest).drop mark.length)
    else splitAt? mark (c :: before) rest

/-- The property in the braces of a class, and whether the class is its complement. -/
def property? (name : List Char) : Option (Property × Bool) :=
  match splitAt? ['!', '='] [] name with
  | some (property, value) => (Property.ofValue? property value).map (·, true)
  | none =>
    match splitAt? [':'] [] name with
    | some (property, value) => (Property.ofValue? property value).map (·, false)
    | none =>
      match splitAt? ['='] [] name with
      | some (property, value) => (Property.ofValue? property value).map (·, false)
      | none => (Property.ofName? name).map (·, false)

/-- A class of characters by a property. -/
def propertyEscape (negated : Bool) : Scanner Escape := do
  pass
  let (property, swapped) ←
    if (← peek) = '\x7b' then do
      pass
      let name ← runAll (· ≠ '\x7d')
      let _ ← next
      demand (property? name)
    else do
      let c ← peek
      require (c ≠ '\\')
      pass
      demand ((Property.ofName? [c]).map (·, false))
  let flags ← flags
  require flags.unicode
  return .set (← finishSet flags (negated != swapped) (.property property))

/-- The classes of digits, blanks and word characters. -/
def classEscape (letter : Char) : Scanner Escape := do
  let flags ← flags
  let set : CharSet :=
    if letter.toLower = 'd' then if flags.unicode then .property (.category "Nd") else .digits
    else if letter.toLower = 's' then if flags.unicode then .property .blank else .asciiBlanks
    else if flags.unicode then .property .word else .asciiWord
  return .set (← finishSet { flags with caseless := false } letter.isUpper set)

def wordSet (flags : Flags) : CharSet := if flags.unicode then .property .word else .asciiWord

def isBoundaryChar (c : Char) : Bool := c.isAlpha || c == '-'

/-- The kind of a word boundary: braces behind it may name one. -/
def boundaryKind : Scanner Boundary := do
  let start ← get
  if (← peek?) = some '\x7b' then
    pass
    if isBoundaryChar (← peek) then
      let name ← runAll isBoundaryChar
      require ((← next) = '\x7d')
      demand ([("start", Boundary.wordStart), ("end", .wordEnd), ("start-half", .noWordBefore),
        ("end-half", .noWordAfter)].lookup (String.ofList name))
    else
      set start
      return .edge
  else return .edge

/-- An ASCII character that stands for itself behind a backslash. -/
def isEscapable (c : Char) : Bool := Text.isAscii c && !c.isAlphanum && c != '<' && c != '>'

/-- What follows a backslash. -/
def escape : Scanner Escape := do
  let c ← peek
  if c = 'x' ∨ c = 'u' ∨ c = 'U' then hexEscape c
  else if c = 'p' ∨ c = 'P' then propertyEscape (c = 'P')
  else
    let _ ← next
    let look (b : Boundary) : Scanner Escape := return .look (.boundary b (wordSet (← flags)))
    if ['d', 's', 'w', 'D', 'S', 'W'].contains c then classEscape c
    else if isEscapable c then return .literal c
    else
      match c with
      | 'a' => return .literal '\x07'
      | 'f' => return .literal '\x0c'
      | 't' => return .literal '\t'
      | 'n' => return .literal '\n'
      | 'r' => return .literal '\r'
      | 'v' => return .literal '\x0b'
      | 'A' => return .look .textStart
      | 'z' => return .look .textEnd
      | 'b' => look (← boundaryKind)
      | 'B' => look .noEdge
      | '<' => look .wordStart
      | '>' => look .wordEnd
      | _ => fail

/-! ### Sets in brackets -/

inductive SetOperation where
  | inter
  | diff
  | symmDiff

def SetOperation.apply : SetOperation → CharSet → CharSet → CharSet
  | inter => .inter
  | diff => .diff
  | symmDiff => .symmDiff

/-- The set so far: the operation that waits for its right side, and that side as far as it was
read. -/
def joinSets (flags : Flags) (left : Option (SetOperation × CharSet)) (right : CharSet) : CharSet :=
  match left with
  | none => right
  | some (operation, left) =>
    if flags.caseless then
      if flags.unicode then operation.apply (.caseless left) (.caseless right)
      else operation.apply (.asciiCaseless left) (.asciiCaseless right)
    else operation.apply left right

/-- A character or a class in brackets. -/
def setItem : Scanner Escape := do
  if (← peek) = '\\' then
    let _ ← next
    escape
  else return .literal (← next)

/-- The character that an item of a set is; without Unicode classes only ASCII is allowed. -/
def itemChar : Escape → Scanner Char
  | .literal c | .byte c => do
    require ((← flags).unicode || Text.isAscii c)
    return c
  | _ => fail

def itemSet : Escape → Scanner CharSet
  | .set s => return s
  | item => return .single (← itemChar item)

/-- An item of a set, or a range between two. -/
def setRange : Scanner CharSet := do
  let item ← setItem
  skipSpace
  let behind ← peekBehind?
  if (← peek) ≠ '-' ∨ behind = some ']' ∨ behind = some '-' then itemSet item
  else
    pass
    let last ← setItem
    let first ← itemChar item
    let last ← itemChar last
    require (first ≤ last)
    return .range first last

/-- A class of ASCII characters by its name, in the form `[:name:]`. -/
def namedSet? (text : List Char) : Option (String × Bool × List Char) :=
  match text with
  | '[' :: ':' :: rest =>
    let (negated, rest) := match rest with
      | '^' :: rest => (true, rest)
      | rest => (false, rest)
    match rest.span (· ≠ ':') with
    | (name, ':' :: ']' :: rest) => some (String.ofList name, negated, rest)
    | _ => none
  | _ => none

/-- Hyphens at the start of a set stand for themselves. -/
def leadingHyphens : Nat → CharSet → Scanner CharSet
  | 0, set => return set
  | fuel + 1, set => do
    if (← peek) = '-' then
      pass
      leadingHyphens fuel (.union set (.single '-'))
    else return set

mutual

/-- A set in brackets, from the opening to the closing one. -/
def bracketSet : Nat → Scanner (CharSet × Nat)
  | 0 => fail
  | fuel + 1 => do
    pass
    let negated := (← peek) = '^'
    if negated then pass
    let set ← leadingHyphens (← rest).length .empty
    let set ← if set = .empty ∧ (← peek) = ']' then do
        pass
        pure (CharSet.single ']')
      else pure set
    let _ ← peek
    let (set, depth) ← setItems fuel none set 0
    return (← finishSet (← flags) negated set, depth + 1)

/-- The rest of a set: `left` waits for what follows, and `set` is what follows as far as it was
read. -/
def setItems : Nat → Option (SetOperation × CharSet) → CharSet → Nat → Scanner (CharSet × Nat)
  | 0, _, _, _ => fail
  | fuel + 1, left, set, depth => do
    skipSpace
    let flags ← flags
    let operate (operation : SetOperation) : Scanner (CharSet × Nat) := do
      let _ ← next
      let _ ← next
      setItems fuel (some (operation, joinSets flags left set)) .empty depth
    match ← rest with
    | '[' :: more =>
      match namedSet? ('[' :: more) with
      | some (name, negated, behind) =>
        match CharSet.ofName? name with
        | some named =>
          setRest behind
          setItems fuel left (.union set (← finishSet flags negated named)) depth
        | none =>
          let (inner, innerDepth) ← bracketSet fuel
          setItems fuel left (.union set inner) (max depth innerDepth)
      | none =>
        let (inner, innerDepth) ← bracketSet fuel
        setItems fuel left (.union set inner) (max depth innerDepth)
    | ']' :: behind =>
      setRest behind
      return (joinSets flags left set, depth)
    | '&' :: '&' :: _ => operate .inter
    | '-' :: '-' :: _ => operate .diff
    | '~' :: '~' :: _ => operate .symmDiff
    | _ => setItems fuel left (.union set (← setRange)) depth

end

/-! ### Groups and repetitions -/

def flagOfLetter? (c : Char) : Option (Bool → Flags → Flags) :=
  match c with
  | 'i' => some fun on flags => { flags with caseless := on }
  | 'm' => some fun on flags => { flags with multiLine := on }
  | 's' => some fun on flags => { flags with dotAll := on }
  | 'u' => some fun on flags => { flags with unicode := on }
  | 'R' => some fun on flags => { flags with returns := on }
  | 'x' => some fun on flags => { flags with spaced := on }
  | 'U' => some fun _ flags => flags
  | _ => none

/-- The flags up to a colon or a closing parenthesis: no letter and no hyphen stands twice, and no
hyphen stands last. -/
def readFlags : Nat → List Char → Flags → Scanner (List Char × Flags)
  | 0, _, _ => fail
  | fuel + 1, seen, flags => do
    let c ← peek
    if c = ':' ∨ c = ')' then
      require (seen.head? ≠ some '-')
      return (seen, flags)
    else
      let _ ← next
      require !seen.contains c
      if c = '-' then readFlags fuel (c :: seen) flags
      else
        let change ← demand (flagOfLetter? c)
        readFlags fuel (c :: seen) (change (!seen.contains '-') flags)

def isNameChar (isFirst : Bool) (c : Char) : Bool :=
  c == '_' || Text.isAlphabetic c
    || (!isFirst && (Text.isNumeric c || c == '.' || c == '[' || c == ']'))

/-- The name of a group, up to its closing angle bracket; no two groups have one name. -/
def groupName : Scanner Unit := do
  match (← rest).span (· ≠ '>') with
  | (first :: others, _ :: behind) =>
    require (isNameChar true first && others.all (isNameChar false))
    let s ← get
    require !s.names.contains (first :: others)
    set { s with rest := behind, names := (first :: others) :: s.names }
  | _ => fail

def seqPieces : List Piece → Piece
  | [] => ⟨.empty, 0, false⟩
  | [piece] => piece
  | pieces =>
    ⟨(pieces.map (·.pattern)).foldr (fun p q => if q = .empty then p else .seq p q) .empty,
      (pieces.map (·.depth)).foldl max 0 + 1, false⟩

def altPieces : List Piece → Piece
  | [] => ⟨.empty, 0, false⟩
  | [piece] => piece
  | piece :: pieces =>
    ⟨pieces.foldl (fun p q => .alt p q.pattern) piece.pattern,
      (pieces.map (·.depth)).foldl max piece.depth + 1, false⟩

/-- The last piece before a repetition sign, and the pieces before it. -/
def splitLast (read : List Piece) : Scanner (Piece × List Piece) :=
  match read with
  | piece :: read => if piece.isFlags then fail else return (piece, read)
  | [] => fail

/-- A question mark behind a repetition sign prefers short matches, which changes no answer. -/
def passLazy : Scanner Unit := do
  if (← peek?) = some '?' then
    let _ ← next

def passBlanks : Scanner Unit := do
  setRest ((← rest).dropWhile Text.isBlank)

/-- A number with blanks around it, if there is one. -/
def number? : Scanner (Option Nat) := do
  passBlanks
  let digits ← runAll Decimal.isDigit
  passBlanks
  skipSpace
  if digits.isEmpty then return none
  else
    require (Decimal.value digits < UInt32.size)
    return some (Decimal.value digits)

/-- The bounds of a repetition, from the opening to the closing brace. -/
def bounds : Scanner (Nat × Option Nat) := do
  pass
  let least ← demand (← number?)
  let most ←
    if (← peek) = ',' then do
      pass
      if (← peek) = '\x7d' then pure none
      else do
        let most ← demand (← number?)
        require (least ≤ most)
        pure (some most)
    else pure (some least)
  require ((← peek) = '\x7d')
  pass
  return (least, most)

def charPiece (set : CharSet) : Piece := ⟨.char set, 0, false⟩

def lookPiece (l : Look) : Piece := ⟨.look l, 0, false⟩

/-- Any character but the end of a line. -/
def dotSet (flags : Flags) : CharSet :=
  if flags.dotAll then .property .any
  else if flags.returns then .compl (.union (.single '\n') (.single '\r'))
  else .compl (.single '\n')

def lineStart (flags : Flags) : Look :=
  if flags.multiLine then if flags.returns then .returnLineStart else .lineStart else .textStart

def lineEnd (flags : Flags) : Look :=
  if flags.multiLine then if flags.returns then .returnLineEnd else .lineEnd else .textEnd

/-- A piece that is neither a group nor a set in brackets. -/
def simplePiece : Scanner Piece := do
  let c ← next
  let flags ← flags
  match c with
  | '\\' =>
    match ← escape with
    | .literal c => return charPiece (literalSet flags c)
    | .byte c =>
      require (flags.unicode || Text.isAscii c)
      return charPiece (literalSet flags c)
    | .set s => return charPiece s
    | .look l => return lookPiece l
  | '.' =>
    require flags.unicode
    return charPiece (dotSet flags)
  | '^' => return lookPiece (lineStart flags)
  | '$' => return lookPiece (lineEnd flags)
  | c => return charPiece (literalSet flags c)

/-- What stands behind the opening parenthesis of a group: `none` if it is a change of flags up to
the end of the group around it, else the flags inside. -/
def groupStart : Scanner (Option Flags) := do
  let outer ← flags
  skipSpace
  let rest ← rest
  require !(["?=", "?!", "?<=", "?<!"].any fun look => look.toList.isPrefixOf rest)
  if ← passText "?P<" then
    groupName
    return some outer
  else if ← passText "?<" then
    groupName
    return some outer
  else if ← passText "?" then
    let (seen, flags) ← readFlags (rest.length + 1) [] outer
    if (← next) = ')' then
      require !seen.isEmpty
      setFlags flags
      return none
    else return some flags
  else return some outer

mutual

/-- Alternatives up to the end of the group or of the text. -/
def alternatives : Nat → Scanner (List Piece)
  | 0 => fail
  | fuel + 1 => do
    let piece ← pieces fuel []
    if (← peek?) = some '|' then
      let _ ← next
      return piece :: (← alternatives fuel)
    else return [piece]

/-- The pieces of one alternative; `read` are those before, reversed. -/
def pieces : Nat → List Piece → Scanner Piece
  | 0, _ => fail
  | fuel + 1, read => do
    skipSpace
    match ← peek? with
    | none | some '|' | some ')' => return seqPieces read.reverse
    | some '(' =>
      let piece ← group fuel
      pieces fuel (piece :: read)
    | some '[' =>
      let (set, depth) ← bracketSet (2 * (← rest).length)
      pieces fuel (⟨.char set, depth, false⟩ :: read)
    | some '\x7b' =>
      let (piece, read) ← splitLast read
      let (least, most) ← bounds
      passLazy
      pieces fuel (⟨.count piece.pattern least most, piece.depth + 1, false⟩ :: read)
    | some '*' =>
      let (piece, read) ← splitLast read
      let _ ← next
      passLazy
      pieces fuel (⟨.star piece.pattern, piece.depth + 1, false⟩ :: read)
    | some '+' =>
      let (piece, read) ← splitLast read
      let _ ← next
      passLazy
      pieces fuel (⟨.seq piece.pattern (.star piece.pattern), piece.depth + 1, false⟩ :: read)
    | some '?' =>
      let (piece, read) ← splitLast read
      let _ ← next
      passLazy
      pieces fuel (⟨.alt piece.pattern .empty, piece.depth + 1, false⟩ :: read)
    | some _ => pieces fuel ((← simplePiece) :: read)

/-- A group in parentheses. -/
def group : Nat → Scanner Piece
  | 0 => fail
  | fuel + 1 => do
    let _ ← next
    let outer ← flags
    match ← groupStart with
    | none => return ⟨.empty, 0, true⟩
    | some inner =>
      setFlags inner
      let piece := altPieces (← alternatives fuel)
      require ((← next) = ')')
      setFlags outer
      return ⟨piece.pattern, piece.depth + 1, false⟩

end

end Scanner

/-- The flags at the beginning of a pattern. -/
def defaultFlags : Flags where
  caseless := false
  multiLine := false
  dotAll := false
  unicode := true
  returns := false
  spaced := false

/-- The deepest nesting that is allowed. -/
def maxDepth : Nat := 250

/-- The cost that is allowed. -/
def maxCost : Nat := 10485760

/-- Why a text is not taken for a pattern. -/
inductive Problem where
  | malformed
  | tooLarge
  deriving DecidableEq

def Problem.message : Problem → String
  | malformed => "regex parse error:"
  | tooLarge => "Compiled regex exceeds size limit of " ++ Decimal.text maxCost ++ " bytes."

/-- The pattern that a text denotes. -/
def parse (text : String) : Except Problem Pattern :=
  let chars := text.toList
  match Scanner.alternatives (2 * chars.length + 4) ⟨chars, defaultFlags, []⟩ with
  | some (pieces, ⟨[], _, _⟩) =>
    let piece := Scanner.altPieces pieces
    if maxDepth < piece.depth then .error .malformed
    else if maxCost < piece.pattern.cost then .error .tooLarge
    else .ok piece.pattern
  | _ => .error .malformed

end ChainIndex.Pattern
