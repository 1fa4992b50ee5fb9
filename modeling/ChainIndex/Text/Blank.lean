/-!
# Blank characters

The characters with the Unicode property White_Space, and the functions on text that skip them.
-/

set_option autoImplicit false

namespace ChainIndex.Text

def isBlank (c : Char) : Bool :=
  let n := c.toNat
  (0x09 ≤ n && n ≤ 0x0D) || n == 0x20 || n == 0x85 || n == 0xA0 || n == 0x1680
    || (0x2000 ≤ n && n ≤ 0x200A) || n == 0x2028 || n == 0x2029 || n == 0x202F || n == 0x205F
    || n == 0x3000

/-- The text without the blanks in front. -/
def trimLeft (text : List Char) : List Char := text.dropWhile isBlank

/-- The text without the blanks at its end. -/
def trimRight (text : List Char) : List Char := (trimLeft text.reverse).reverse

def trim (text : List Char) : List Char := trimRight (trimLeft text)

/-- Whether nothing but blanks is there. -/
def isBlankText (text : List Char) : Bool := text.all isBlank

/-- The maximal runs of characters that are not blank; `word` is the run that is being read. -/
def splitWords (word : List Char) : List Char → List (List Char)
  | [] => if word.isEmpty then [] else [word.reverse]
  | c :: rest =>
    if isBlank c then (if word.isEmpty then splitWords [] rest else word.reverse :: splitWords [] rest)
    else splitWords (c :: word) rest

/-- The words of a text. -/
def words (text : List Char) : List (List Char) := splitWords [] text

/-- Whether `start` is what the text begins with. -/
def startsWith (start text : List Char) : Bool := start.isPrefixOf text

end ChainIndex.Text
