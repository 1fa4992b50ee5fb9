import ChainIndex.Decimal
import ChainIndex.Text.Blank
import ChainIndex.Time.Date

/-!
# Timestamps

A `Timestamp` is a point of time in UTC, to the nanosecond. The second of a minute may be 60, for a
leap second. It is written in RFC 3339 with `Z` and with no, three, six or nine digits of a second's
fraction, the fewest that lose nothing. Reading also takes any offset, blanks between the parts, a
blank or a small letter in place of `T`, and fields without leading zeros.
-/

set_option autoImplicit false

namespace ChainIndex

structure Timestamp where
  date : Date
  hour : Fin 24
  minute : Fin 60
  second : Fin 61
  nanosecond : Fin 1000000000
  deriving DecidableEq

namespace Timestamp

/-! ### Writing -/

def yearChars (year : Int) : List Char :=
  if 0 ≤ year ∧ year ≤ 9999 then Decimal.padded 4 year.toNat
  else (if year < 0 then '-' else '+') :: Decimal.padded 4 year.natAbs

def fractionChars (nanosecond : Nat) : List Char :=
  if nanosecond = 0 then []
  else if nanosecond % 1000000 = 0 then '.' :: Decimal.padded 3 (nanosecond / 1000000)
  else if nanosecond % 1000 = 0 then '.' :: Decimal.padded 6 (nanosecond / 1000)
  else '.' :: Decimal.padded 9 nanosecond

def chars (t : Timestamp) : List Char :=
  yearChars t.date.year ++ '-' :: Decimal.padded 2 t.date.month ++ '-' :: Decimal.padded 2 t.date.day
    ++ 'T' :: Decimal.padded 2 t.hour.val ++ ':' :: Decimal.padded 2 t.minute.val
    ++ ':' :: Decimal.padded 2 t.second.val ++ fractionChars t.nanosecond.val ++ ['Z']

def text (t : Timestamp) : String := String.ofList t.chars

/-! ### Reading -/

/-- A number of one to `width` digits after blanks. -/
def number? (width : Nat) (text : List Char) : Option (Nat × List Char) :=
  let text := Text.trimLeft text
  let digits := (text.take width).takeWhile Decimal.isDigit
  if digits.isEmpty then none else some (Decimal.value digits, text.drop digits.length)

/-- A year: four digits at most, or any number of them after a sign. -/
def year? (text : List Char) : Option (Int × List Char) :=
  match Text.trimLeft text with
  | '-' :: rest => (signed rest).map fun (n, rest) => (-(n : Int), rest)
  | '+' :: rest => (signed rest).map fun (n, rest) => ((n : Int), rest)
  | rest => (number? 4 rest).map fun (n, rest) => ((n : Int), rest)
where
  signed (text : List Char) : Option (Nat × List Char) :=
    match Decimal.digits text with
    | ([], _) => none
    | (digits, rest) => some (Decimal.value digits, rest)

/-- The given character after blanks. -/
def separator? (c : Char) (text : List Char) : Option (List Char) :=
  match Text.trimLeft text with
  | c' :: rest => if c' = c then some rest else none
  | [] => none

/-- The fraction of a second in nanoseconds; digits past the ninth are dropped. -/
def fraction? : List Char → Option (Nat × List Char)
  | '.' :: rest =>
    match Decimal.digits rest with
    | ([], _) => none
    | (digits, rest) =>
      let kept := digits.take 9
      some (Decimal.value kept * Nat.pow 10 (9 - kept.length), rest)
  | text => some (0, text)

def isDateEnd (c : Char) : Bool := c == 'T' || c == 't' || c == ' '

/-- Two digits, the first of them at most `top`. -/
def twoDigits? (top : Char) : List Char → Option (Nat × List Char)
  | a :: b :: rest =>
    if '0' ≤ a ∧ a ≤ top ∧ Decimal.isDigit b then some (Decimal.value [a, b], rest) else none
  | _ => none

def isOffsetGap (c : Char) : Bool := c == ':' || Text.isBlank c

/-- Hours and minutes of an offset, as minutes. -/
def offsetMinutes? (text : List Char) : Option (Nat × List Char) := do
  let (hours, rest) ← twoDigits? '9' text
  let (minutes, rest) ← twoDigits? '5' (rest.dropWhile isOffsetGap)
  return (hours * 60 + minutes, rest)

/-- The offset from UTC in minutes. -/
def offset? (text : List Char) : Option (Int × List Char) :=
  match text with
  | 'Z' :: rest => some (0, rest)
  | 'z' :: rest => some (0, rest)
  | '+' :: rest => (offsetMinutes? rest).map fun (m, rest) => ((m : Int), rest)
  | '-' :: rest => (offsetMinutes? rest).map fun (m, rest) => (-(m : Int), rest)
  | '\u2212' :: rest => (offsetMinutes? rest).map fun (m, rest) => (-(m : Int), rest)
  | a :: b :: c :: rest =>
    if a.toUpper = 'U' ∧ b.toUpper = 'T' ∧ c.toUpper = 'C' then some (0, rest) else none
  | _ => none

/-- The date and the time of day in minutes that lie `offset` minutes earlier. -/
def shift? (date : Date) (minutes : Nat) (offset : Int) : Option (Date × Nat) :=
  let moved : Int := minutes - offset
  if moved < 0 then date.previous?.map fun d => (d, (moved + 1440).toNat)
  else if 1440 ≤ moved then date.next?.map fun d => (d, (moved - 1440).toNat)
  else some (date, moved.toNat)

/-- The timestamp of a local date and time at an offset from UTC, if its fields are in range. -/
def ofLocal? (date : Date) (hour minute second nanosecond : Nat) (offset : Int) : Option Timestamp :=
  if hour < 24 ∧ minute < 60 ∧ offset.natAbs < 1440 then
    match shift? date (hour * 60 + minute) offset with
    | some (date, minutes) =>
      if h : second < 61 ∧ nanosecond < 1000000000 then
        some {
          date
          hour := Fin.ofNat 24 (minutes / 60)
          minute := Fin.ofNat 60 (minutes % 60)
          second := ⟨second, h.1⟩
          nanosecond := ⟨nanosecond, h.2⟩ }
      else none
    | none => none
  else none

def ofChars? (text : List Char) : Option Timestamp := do
  let (year, rest) ← year? text
  let (month, rest) ← number? 2 (← separator? '-' rest)
  let (day, rest) ← number? 2 (← separator? '-' rest)
  let rest ← match rest with
    | c :: rest => if isDateEnd c then some rest else none
    | [] => none
  let (hour, rest) ← number? 2 rest
  let (minute, rest) ← number? 2 (← separator? ':' rest)
  let (second, rest) ← number? 2 (← separator? ':' rest)
  let (nanosecond, rest) ← fraction? rest
  let (offset, rest) ← offset? (Text.trimLeft rest)
  if Text.isBlankText rest then
    let date ← Date.ofFields? year month day
    ofLocal? date hour minute second nanosecond offset
  else none

def ofText? (s : String) : Option Timestamp := ofChars? s.toList

/-! ### Counting from an epoch -/

/-- The first moment of 1970. -/
def epoch : Timestamp where
  date := ⟨1970, 1, 1, by decide, by decide, by decide⟩
  hour := 0
  minute := 0
  second := 0
  nanosecond := 0

/-- The time so many nanoseconds after the epoch, with no leap seconds between. -/
def sinceEpoch? (nanoseconds : Nat) : Option Timestamp :=
  let seconds := nanoseconds / 1000000000
  (epoch.date.after? (seconds / 86400)).map fun date => {
    date
    hour := Fin.ofNat 24 (seconds / 3600)
    minute := Fin.ofNat 60 (seconds / 60)
    second := Fin.ofNat 61 (seconds % 60)
    nanosecond := Fin.ofNat 1000000000 nanoseconds }

end Timestamp

end ChainIndex
