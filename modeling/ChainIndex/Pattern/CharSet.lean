import ChainIndex.Text.Blank
import ChainIndex.Text.CaseFold
import ChainIndex.Text.Word
import ChainIndex.Text.WritingSystem

/-!
# Sets of characters

The sets of characters that a pattern can name: ranges, properties, and what the operations on sets
make of them.
-/

set_option autoImplicit false

namespace ChainIndex.Pattern

/-- A property of characters. -/
inductive Property where
  | any
  | assigned
  | ascii
  | alphabetic
  | lowercase
  | uppercase
  | blank
  | word
  /-- The general category with this code. -/
  | category (code : String)
  /-- The general categories whose codes begin with this letter. -/
  | group (letter : Char)
  /-- The letters with case. -/
  | cased
  /-- The writing system with this code. -/
  | writingSystem (code : String)
  deriving DecidableEq

def Property.holds : Property → Char → Bool
  | any, _ => true
  | assigned, c => Text.category c != "Cn"
  | ascii, c => Text.isAscii c
  | alphabetic, c => Text.isAlphabetic c
  | lowercase, c => Text.isLowercase c
  | uppercase, c => Text.isUppercase c
  | blank, c => Text.isBlank c
  | word, c => Text.isWord c
  | category code, c => Text.category c == code
  | group letter, c => Text.isInGroup letter c
  | cased, c => ["Lu", "Ll", "Lt"].contains (Text.category c)
  | writingSystem code, c => Text.writingSystem c == code

inductive CharSet where
  | empty
  /-- From the first to the last character, both included. -/
  | range (first last : Char)
  | property (p : Property)
  | union (a b : CharSet)
  | inter (a b : CharSet)
  | diff (a b : CharSet)
  | symmDiff (a b : CharSet)
  | compl (a : CharSet)
  /-- The set with all characters that differ from one of its characters in case only. -/
  | caseless (a : CharSet)
  /-- The set with the ASCII letters that differ from one of its characters in case only. -/
  | asciiCaseless (a : CharSet)
  deriving DecidableEq

namespace CharSet

def single (c : Char) : CharSet := .range c c

def contains : CharSet → Char → Bool
  | empty, _ => false
  | range first last, c => first ≤ c && c ≤ last
  | property p, c => p.holds c
  | union a b, c => a.contains c || b.contains c
  | inter a b, c => a.contains c && b.contains c
  | diff a b, c => a.contains c && !b.contains c
  | symmDiff a b, c => a.contains c != b.contains c
  | compl a, c => !a.contains c
  | caseless a, c => (Text.caseVariants c).any fun variant => a.contains variant
  | asciiCaseless a, c => a.contains c || a.contains c.toLower || a.contains c.toUpper

def ofChars (chars : List Char) : CharSet := chars.foldl (fun set c => .union set (single c)) .empty

def digits : CharSet := .range '0' '9'

def lowerLetters : CharSet := .range 'a' 'z'

def upperLetters : CharSet := .range 'A' 'Z'

def letters : CharSet := .union lowerLetters upperLetters

def alphanumeric : CharSet := .union digits letters

/-- The blanks of ASCII. -/
def asciiBlanks : CharSet := .union (.range '\t' '\x0d') (single ' ')

/-- The word characters of ASCII. -/
def asciiWord : CharSet := .union alphanumeric (single '_')

def punctuation : CharSet :=
  .union (.union (.range '!' '/') (.range ':' '@')) (.union (.range '[' '\x60') (.range '\x7b' '~'))

/-- The classes of ASCII characters that have a name. -/
def ofName? (name : String) : Option CharSet :=
  [("alnum", alphanumeric), ("alpha", letters), ("ascii", .property .ascii),
    ("blank", .union (single '\t') (single ' ')),
    ("cntrl", .union (.range '\x00' '\x1f') (single '\x7f')), ("digit", digits),
    ("graph", .range '!' '~'), ("lower", lowerLetters), ("print", .range ' ' '~'),
    ("punct", punctuation), ("space", asciiBlanks), ("upper", upperLetters), ("word", asciiWord),
    ("xdigit", .union digits (.union (.range 'A' 'F') (.range 'a' 'f')))].lookup name

/-- About how many ranges the set consists of. -/
def rangeCount : CharSet → Nat
  | empty => 0
  | range _ _ => 1
  | property .any => 1
  | property .ascii => 1
  | property .blank => 10
  | property (.category "Nd") => 64
  | property (.writingSystem _) => 30
  | property _ => 600
  | union a b | inter a b | diff a b | symmDiff a b => a.rangeCount + b.rangeCount
  | compl a => a.rangeCount + 1
  | caseless a => 2 * a.rangeCount
  | asciiCaseless a => 2 * a.rangeCount

end CharSet

end ChainIndex.Pattern
