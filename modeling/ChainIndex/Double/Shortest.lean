import ChainIndex.Decimal
import ChainIndex.Double

/-!
# The shortest decimal of a double

A double is written with the fewest digits that are still nearer to it than to any other double. For
each number of digits the two neighbours of the value on that decimal grid are tried, in exact
arithmetic; the first grid with a hit wins, of two hits the nearer one, and of two equally near ones
the even one. `Double.text` places the decimal point: positionally, with at least one digit after
the point, from 0.00001 up to below 10 ^ 16, and with an exponent elsewhere.
-/

set_option autoImplicit false

namespace ChainIndex.Double

/-- The interval of values that are rounded to a double, in quarters of its last place. -/
structure Interval where
  low : Nat
  value : Nat
  high : Nat
  /-- The exponent of two that a quarter of the last place stands for. -/
  scale : Int
  /-- The ends belong to the interval. -/
  closed : Bool

/-- Below a power of two the doubles lie twice as close, so the lower half gap is halved there. -/
def interval (x : Double) : Interval where
  low := if x.fraction.val == 0 && 1 < x.exponent.val then 4 * x.significand - 1 else 4 * x.significand - 2
  value := 4 * x.significand
  high := 4 * x.significand + 2
  scale := x.scale - 2
  closed := x.significand % 2 == 0

/-- Compares `count · 10 ^ place` with `quarters · 2 ^ scale`. -/
def comparePlaces (count : Nat) (place : Int) (quarters : Nat) (scale : Int) : Ordering :=
  compare (count * Nat.pow 10 place.toNat * Nat.pow 2 (-scale).toNat)
    (quarters * Nat.pow 2 scale.toNat * Nat.pow 10 (-place).toNat)

def Interval.holds (i : Interval) (count : Nat) (place : Int) : Bool :=
  match comparePlaces count place i.low i.scale, comparePlaces count place i.high i.scale with
  | .gt, .lt => true
  | .eq, _ => i.closed
  | _, .eq => i.closed
  | _, _ => false

/-- The number of digits before the decimal point, or minus the zeros after it. -/
def leadingPlace (num den : Nat) : Int :=
  if den ≤ num then
    ((Decimal.chars (num / den)).length : Int)
  else
    -- the first count of places after which the value reaches one
    let rec go : Nat → Nat → Int → Int
      | 0, _, places => places
      | steps + 1, scaled, places => if den ≤ scaled then places else go steps (scaled * 10) (places - 1)
    go 400 (num * 10) 0

/-- The neighbours of the value with `count` digits, tried from the nearer one. -/
def candidate? (i : Interval) (num den : Nat) (place : Int) : Option (Nat × Int) :=
  let scaledNum := num * Nat.pow 10 (-place).toNat
  let scaledDen := den * Nat.pow 10 place.toNat
  let floor := scaledNum / scaledDen
  let rest := scaledNum % scaledDen
  let below := i.holds floor place
  let above := i.holds (floor + 1) place
  match below, above with
  | false, false => none
  | true, false => some (floor, place)
  | false, true => some (floor + 1, place)
  | true, true =>
    if 2 * rest < scaledDen || (2 * rest == scaledDen && floor % 2 == 0) then some (floor, place)
    else some (floor + 1, place)

/-- The shortest digits of a positive double, as a count and the power of ten it is scaled by. -/
def shortest (x : Double) : Nat × Int :=
  let i := x.interval
  let (num, den) := x.magnitude
  let leading := leadingPlace num den
  let rec go : Nat → Nat → Nat × Int
    | 0, _ => (0, 0)
    | steps + 1, count =>
      match candidate? i num den (leading - count) with
      | some found => found
      | none => go steps (count + 1)
  go 20 1

/-- Moves trailing zeros of the digits into the exponent. -/
def trimZeros : Nat → Nat → Int → Nat × Int
  | 0, digits, place => (digits, place)
  | steps + 1, digits, place =>
    if digits % 10 == 0 && digits != 0 then trimZeros steps (digits / 10) (place + 1) else (digits, place)

/-- The notation of a positive number given by its digits and the power of ten that scales them. -/
def positioned (digits : List Char) (place : Int) : List Char :=
  let point : Int := digits.length + place
  if -4 ≤ point && point ≤ 16 then
    if 0 ≤ place then
      digits ++ List.replicate place.toNat '0' ++ ['.', '0']
    else if 0 < point then
      digits.take point.toNat ++ '.' :: digits.drop point.toNat
    else
      ['0', '.'] ++ List.replicate (-point).toNat '0' ++ digits
  else
    let exponent := point - 1
    let fraction := match digits.drop 1 with
      | [] => []
      | rest => '.' :: rest
    digits.take 1 ++ fraction ++ ['e', if exponent < 0 then '-' else '+'] ++ Decimal.chars exponent.natAbs

def chars (x : Double) : List Char :=
  let sign := if x.negative then ['-'] else []
  if x.isZero then
    sign ++ ['0', '.', '0']
  else
    let (digits, place) := x.shortest
    let (digits, place) := trimZeros 20 digits place
    sign ++ positioned (Decimal.chars digits) place

def text (x : Double) : String := String.ofList x.chars

end ChainIndex.Double
