/-!
# Finite binary64 numbers

A `Double` is a finite number of the binary64 format, held by its three fields, so equality of
doubles is equality of bits. Arithmetic is exact on natural numbers and rounds once, to the nearest
double, a tie going to the even significand.
-/

set_option autoImplicit false

namespace ChainIndex

structure Double where
  negative : Bool
  /-- The biased exponent; the value 2047, which stands for infinities, does not occur. -/
  exponent : Fin 2047
  fraction : Fin 4503599627370496
  deriving DecidableEq

namespace Double

/-- Two to the power 52, the least significand of a normal number. -/
def unit : Nat := 4503599627370496

def zero (negative : Bool) : Double := ⟨negative, 0, 0⟩

/-- The integer that is scaled by a power of two: the hidden bit is set except below the normals. -/
def significand (x : Double) : Nat :=
  if x.exponent.val = 0 then x.fraction.val else unit + x.fraction.val

/-- The exponent of the power of two that scales `significand`. -/
def scale (x : Double) : Int :=
  if x.exponent.val = 0 then -1074 else (x.exponent.val : Int) - 1075

def isZero (x : Double) : Bool := x.exponent.val == 0 && x.fraction.val == 0

/-- The two zeros are equal as numbers; all other doubles are told apart by their fields. -/
def equal (x y : Double) : Bool := x == y || (x.isZero && y.isZero)

/-- The magnitude as a quotient of natural numbers. -/
def magnitude (x : Double) : Nat × Nat :=
  (x.significand * Nat.pow 2 x.scale.toNat, Nat.pow 2 (-x.scale).toNat)

/-- The integer nearest to `num / den`, a half going to the even neighbour. -/
def roundHalfEven (num den : Nat) : Nat :=
  let quotient := num / den
  let remainder := num % den
  if 2 * remainder < den || (2 * remainder == den && quotient % 2 == 0) then quotient else quotient + 1

/-- The double with the given significand and scale, if that is a finite one. -/
def pack? (negative : Bool) (significand : Nat) (scale : Int) : Option Double :=
  if significand < unit then
    some ⟨negative, 0, Fin.ofNat _ significand⟩
  else
    let biased := (scale + 1075).toNat
    if h : biased < 2047 then some ⟨negative, ⟨biased, h⟩, Fin.ofNat _ (significand - unit)⟩ else none

/-- The double nearest to `num / den`, or `none` if that quotient is rounded past the largest one. -/
def nearest? (negative : Bool) (num den : Nat) : Option Double :=
  if num == 0 || den == 0 then
    some (zero negative)
  else
    let estimate : Int := (num.log2 : Int) - (den.log2 : Int)
    let reached : Bool := decide (den * Nat.pow 2 estimate.toNat ≤ num * Nat.pow 2 (-estimate).toNat)
    let top := if reached then estimate else estimate - 1
    let scale := max (top - 52) (-1074)
    let rounded := roundHalfEven (num * Nat.pow 2 (-scale).toNat) (den * Nat.pow 2 scale.toNat)
    if rounded == 2 * unit then pack? negative unit (scale + 1) else pack? negative rounded scale

/-- The product, or `none` if it is not finite; the sign is that of `x`. -/
def scaleUp? (x y : Double) : Option Double :=
  nearest? x.negative (x.magnitude.1 * y.magnitude.1) (x.magnitude.2 * y.magnitude.2)

/-- The quotient, or `none` if it is not finite; the sign is that of `x`. -/
def scaleDown? (x y : Double) : Option Double :=
  nearest? x.negative (x.magnitude.1 * y.magnitude.2) (x.magnitude.2 * y.magnitude.1)

/-! ### From decimal notation -/

/-- The double nearest to a power of ten. -/
def powerOfTen? (exponent : Nat) : Option Double := nearest? false (Nat.pow 10 exponent) 1

/-- Divides by a power of ten, at most 308 places at a time, each division rounded. -/
def shiftRight? : Nat → Double → Nat → Option Double
  | 0, x, _ => some x
  | steps + 1, x, places =>
    if places ≤ 308 then
      (powerOfTen? places).bind x.scaleDown?
    else if x.isZero then
      some x
    else
      ((powerOfTen? 308).bind x.scaleDown?).bind fun y => shiftRight? steps y (places - 308)

/-- The value of `digits · 10 ^ exponent`: the digits are rounded to a double, which is then scaled
by the power of ten and rounded again. `none` if the value is past the largest double. -/
def ofDecimal? (negative : Bool) (digits : Nat) (exponent : Int) : Option Double :=
  (nearest? negative digits 1).bind fun x =>
    match exponent with
    | .ofNat places =>
      if places ≤ 308 then (powerOfTen? places).bind x.scaleUp?
      else if x.isZero then some x
      else none
    | .negSucc places => shiftRight? (places + 1) x (places + 1)

end Double

end ChainIndex
