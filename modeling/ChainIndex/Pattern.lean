import ChainIndex.Pattern.CharSet

/-!
# Patterns

A pattern is a regular expression over characters, with assertions about the places between them.
A place in a text is the number of characters before it. `Pattern.after` gives the places that a
match ends at which begins at one of the given places; a text has a match if there is such a place
for a match that begins anywhere.
-/

set_option autoImplicit false

namespace ChainIndex

namespace Pattern

/-- What a pattern may ask of the word characters on both sides of a place. -/
inductive Boundary where
  /-- Just one side is a word character. -/
  | edge
  | noEdge
  | wordStart
  | wordEnd
  /-- No word character before. -/
  | noWordBefore
  /-- No word character after. -/
  | noWordAfter
  deriving DecidableEq

/-- An assertion about a place. -/
inductive Look where
  | textStart
  | textEnd
  | lineStart
  | lineEnd
  /-- The start of a line, if lines may also end in a carriage return. -/
  | returnLineStart
  | returnLineEnd
  | boundary (b : Boundary) (word : CharSet)
  deriving DecidableEq

/-- The assertion at a place between two characters; they are missing at the ends of a text. -/
def Look.holds (before next : Option Char) : Look → Bool
  | textStart => before.isNone
  | textEnd => next.isNone
  | lineStart => before.isNone || before == some '\n'
  | lineEnd => next.isNone || next == some '\n'
  | returnLineStart =>
    before.isNone || before == some '\n' || (before == some '\r' && next != some '\n')
  | returnLineEnd =>
    next.isNone || next == some '\r' || (next == some '\n' && before != some '\r')
  | boundary b word =>
    let isBefore := before.any word.contains
    let isAfter := next.any word.contains
    match b with
    | .edge => isBefore != isAfter
    | .noEdge => isBefore == isAfter
    | .wordStart => !isBefore && isAfter
    | .wordEnd => isBefore && !isAfter
    | .noWordBefore => !isBefore
    | .noWordAfter => !isAfter

end Pattern

open Pattern in
inductive Pattern where
  | empty
  | char (set : CharSet)
  | look (l : Look)
  | seq (p q : Pattern)
  | alt (p q : Pattern)
  /-- Any number of times. -/
  | star (p : Pattern)
  /-- At least `least` times and, if there is a bound, at most `most` times. -/
  | count (p : Pattern) (least : Nat) (most : Option Nat)
  deriving DecidableEq

namespace Pattern

/-! ### Sets of places

A set of places is a list in ascending order. -/

/-- The places in one of two sets. -/
def merge : List Nat → List Nat → List Nat
  | [], places => places
  | places, [] => places
  | i :: is, j :: js =>
    if i < j then i :: merge is (j :: js)
    else if j < i then j :: merge (i :: is) js
    else i :: merge is js
termination_by is js => is.length + js.length

/-- The places of the first set that are not in the second. -/
def without : List Nat → List Nat → List Nat
  | [], _ => []
  | places, [] => places
  | i :: is, j :: js =>
    if i < j then i :: without is (j :: js)
    else if j < i then without (i :: is) js
    else without is js
termination_by is js => is.length + js.length

/-- The places that are reached by any number of steps: `seen` were reached, and `fresh` are those
of them from which no step was made yet. -/
def closure (step : List Nat → List Nat) : Nat → List Nat → List Nat → List Nat
  | 0, seen, _ => seen
  | fuel + 1, seen, fresh =>
    match without (step fresh) seen with
    | [] => seen
    | found => closure step fuel (merge seen found) found

/-- The places that are reached by exactly `n` steps; a step that changes nothing ends the walk. -/
def iterate (step : List Nat → List Nat) : Nat → List Nat → List Nat
  | 0, places => places
  | n + 1, places =>
    let reached := step places
    if reached = places then places else iterate step n reached

/-- The places that are reached by at most `n` steps; `fresh` are those of the last step. -/
def within (step : List Nat → List Nat) : Nat → List Nat → List Nat → List Nat
  | 0, seen, _ => seen
  | n + 1, seen, fresh =>
    match without (step fresh) seen with
    | [] => seen
    | found => within step n (merge seen found) found

/-! ### Matching -/

def before (text : Array Char) (place : Nat) : Option Char :=
  if place = 0 then none else text[place - 1]?

/-- The place behind the character at a place, if the character is in the set. -/
def pass? (text : Array Char) (set : CharSet) (place : Nat) : Option Nat :=
  match text[place]? with
  | some c => if set.contains c then some (place + 1) else none
  | none => none

/-- The places at which a match ends that begins at one of the given places. -/
def after (text : Array Char) : Pattern → List Nat → List Nat
  | empty, places => places
  | char set, places => places.filterMap (pass? text set)
  | look l, places => places.filter fun place => l.holds (before text place) text[place]?
  | seq p q, places => q.after text (p.after text places)
  | alt p q, places => merge (p.after text places) (q.after text places)
  | star p, places => closure (fun from_ => p.after text from_) (text.size + 1) places places
  | count p least most, places =>
    let reached := iterate (fun from_ => p.after text from_) least places
    match most with
    | none => closure (fun from_ => p.after text from_) (text.size + 1) reached reached
    | some most => within (fun from_ => p.after text from_) (most - least) reached reached

/-- Whether the pattern matches some part of the text. -/
def isFoundIn (p : Pattern) (text : String) : Bool :=
  let chars := text.toList.toArray
  !(p.after chars (List.range (chars.size + 1))).isEmpty

/-! ### Size -/

/-- Every match is empty. -/
def isZeroWidth : Pattern → Bool
  | empty | look _ => true
  | char _ => false
  | seq p q | alt p q => p.isZeroWidth && q.isZeroWidth
  | star p => p.isZeroWidth
  | count p _ _ => p.isZeroWidth

/-- About how many bytes an automaton for the pattern takes. -/
def cost : Pattern → Nat
  | empty => 0
  | char set => 16 + 24 * set.rangeCount
  | look _ => 32
  | seq p q => p.cost + q.cost
  | alt p q => p.cost + q.cost + 40
  | star p => p.cost + 40
  | count p least most =>
    if p.isZeroWidth then p.cost + 40
    else
      match most with
      | none => max least 1 * p.cost + 40
      | some most => most * p.cost + (most - least) * 40

end Pattern

end ChainIndex
