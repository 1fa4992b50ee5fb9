import ChainIndex.Pattern.CharSet

/-!
# Names of character properties

A pattern names a property by one of its names in the Unicode standard, or by the name of a property
and of one of its values. Case, blanks, underscores, hyphens and a leading `is` do not count.
-/

set_option autoImplicit false

namespace ChainIndex.Pattern.Property

/-- The categories and groups of categories by their names. -/
def categories : List (String × Property) := [
  ("any", .any), ("assigned", .assigned), ("ascii", .ascii),
  ("c", .group 'C'), ("other", .group 'C'), ("cc", .category "Cc"), ("control", .category "Cc"),
  ("cntrl", .category "Cc"), ("cf", .category "Cf"), ("format", .category "Cf"),
  ("cn", .category "Cn"), ("unassigned", .category "Cn"), ("co", .category "Co"),
  ("privateuse", .category "Co"), ("cs", .category "Cs"), ("surrogate", .category "Cs"),
  ("l", .group 'L'), ("letter", .group 'L'), ("lc", .cased), ("casedletter", .cased),
  ("ll", .category "Ll"), ("lowercaseletter", .category "Ll"), ("lm", .category "Lm"),
  ("modifierletter", .category "Lm"), ("lo", .category "Lo"), ("otherletter", .category "Lo"),
  ("lt", .category "Lt"), ("titlecaseletter", .category "Lt"), ("lu", .category "Lu"),
  ("uppercaseletter", .category "Lu"), ("m", .group 'M'), ("mark", .group 'M'),
  ("combiningmark", .group 'M'), ("mc", .category "Mc"), ("spacingmark", .category "Mc"),
  ("me", .category "Me"), ("enclosingmark", .category "Me"), ("mn", .category "Mn"),
  ("nonspacingmark", .category "Mn"), ("n", .group 'N'), ("number", .group 'N'),
  ("nd", .category "Nd"), ("decimalnumber", .category "Nd"), ("digit", .category "Nd"),
  ("nl", .category "Nl"), ("letternumber", .category "Nl"), ("no", .category "No"),
  ("othernumber", .category "No"), ("p", .group 'P'), ("punctuation", .group 'P'),
  ("punct", .group 'P'), ("pc", .category "Pc"), ("connectorpunctuation", .category "Pc"),
  ("pd", .category "Pd"), ("dashpunctuation", .category "Pd"), ("pe", .category "Pe"),
  ("closepunctuation", .category "Pe"), ("pf", .category "Pf"),
  ("finalpunctuation", .category "Pf"), ("pi", .category "Pi"),
  ("initialpunctuation", .category "Pi"), ("po", .category "Po"),
  ("otherpunctuation", .category "Po"), ("ps", .category "Ps"),
  ("openpunctuation", .category "Ps"), ("s", .group 'S'), ("symbol", .group 'S'),
  ("sc", .category "Sc"), ("currencysymbol", .category "Sc"), ("sk", .category "Sk"),
  ("modifiersymbol", .category "Sk"), ("sm", .category "Sm"), ("mathsymbol", .category "Sm"),
  ("so", .category "So"), ("othersymbol", .category "So"), ("z", .group 'Z'),
  ("separator", .group 'Z'), ("zl", .category "Zl"), ("lineseparator", .category "Zl"),
  ("zp", .category "Zp"), ("paragraphseparator", .category "Zp"), ("zs", .category "Zs"),
  ("spaceseparator", .category "Zs")]

/-- The properties that a character has or has not. -/
def binaries : List (String × Property) := [
  ("alphabetic", .alphabetic), ("alpha", .alphabetic), ("lowercase", .lowercase),
  ("lower", .lowercase), ("uppercase", .uppercase), ("upper", .uppercase),
  ("whitespace", .blank), ("wspace", .blank), ("space", .blank)]

def isNameGap (c : Char) : Bool := c == ' ' || c == '_' || c == '-'

/-- What counts of a name. -/
def plainName (name : List Char) : String :=
  let plain (name : List Char) : List Char :=
    (name.filter fun c => Text.isAscii c && !isNameGap c).map Char.toLower
  match name with
  | a :: b :: rest =>
    if a.toLower = 'i' ∧ b.toLower = 's' then
      let rest := plain rest
      String.ofList (if rest = ['c'] then ['i', 's', 'c'] else rest)
    else String.ofList (plain name)
  | _ => String.ofList (plain name)

def ofWritingSystem? (name : String) : Option Property :=
  (Text.writingSystemNames.lookup name).map .writingSystem

/-- The property with a name. -/
def ofName? (name : List Char) : Option Property :=
  let name := plainName name
  match binaries.lookup name with
  | some p => some p
  | none =>
    match categories.lookup name with
    | some p => some p
    | none => ofWritingSystem? name

/-- The property that a value of another property stands for. -/
def ofValue? (property value : List Char) : Option Property :=
  let property := plainName property
  if property = "generalcategory" ∨ property = "gc" then categories.lookup (plainName value)
  else if ["script", "sc", "scriptextensions", "scx"].contains property then
    ofWritingSystem? (plainName value)
  else none

end ChainIndex.Pattern.Property
