/-!
# Binary floating-point numbers

A `Binary64` is a 64-bit word read as the IEEE 754 format binary64: a sign bit, eleven bits of
exponent, 52 bits of fraction. All operations are exact integer arithmetic on these fields.
Comparison is that of the standard: the two zeros are equal, and NaN differs from everything,
itself included. So `==` is not equality of words.
-/

namespace HexRules

/-- A binary64 word. -/
structure Binary64 where
  bits : UInt64
  deriving DecidableEq, Repr

namespace Binary64

/-- The exponent field of infinities and NaN. -/
def topExponent : Nat := 2047

/-- Whether the sign bit is set. -/
def negative (x : Binary64) : Bool := Nat.pow 2 63 ≤ x.bits.toNat

/-- The eleven exponent bits. -/
def exponentField (x : Binary64) : Nat := x.bits.toNat / Nat.pow 2 52 % Nat.pow 2 11

/-- The 52 fraction bits. -/
def fraction (x : Binary64) : Nat := x.bits.toNat % Nat.pow 2 52

/-- Everything but the sign; it grows with the size of the number. -/
def magnitude (x : Binary64) : Nat := x.bits.toNat % Nat.pow 2 63

def isFinite (x : Binary64) : Bool := x.exponentField != topExponent

def isNaN (x : Binary64) : Bool := x.exponentField == topExponent && x.fraction != 0

def isZero (x : Binary64) : Bool := x.magnitude == 0

/-- The word with the given sign and magnitude. -/
def ofMagnitude (negative : Bool) (magnitude : Nat) : Binary64 :=
  ⟨UInt64.ofNat ((if negative then Nat.pow 2 63 else 0) + magnitude)⟩

def zero : Binary64 := ofMagnitude false 0

def one : Binary64 := ofMagnitude false (1023 * Nat.pow 2 52)

def infinity (negative : Bool) : Binary64 := ofMagnitude negative (topExponent * Nat.pow 2 52)

/-- The one NaN that reading produces. -/
def nan : Binary64 := ofMagnitude false (topExponent * Nat.pow 2 52 + Nat.pow 2 51)

/-! ## Comparison -/

/-- The place of a number (not NaN) in the order; both zeros are at 0. -/
def rank (x : Binary64) : Int := if x.negative then -(x.magnitude : Int) else (x.magnitude : Int)

/-- Equality of the standard. -/
def eq (x y : Binary64) : Bool := !x.isNaN && !y.isNaN && x.rank == y.rank

/-- Order of the standard. -/
def le (x y : Binary64) : Bool := !x.isNaN && !y.isNaN && decide (x.rank ≤ y.rank)

instance : BEq Binary64 := ⟨eq⟩

/-! ## Whole numbers -/

/-- The integer `m` in the value `m * 2 ^ e` of a finite number. -/
def significand (x : Binary64) : Nat :=
  if x.exponentField = 0 then x.fraction else Nat.pow 2 52 + x.fraction

/-- The exponent `e` in the value `m * 2 ^ e` of a finite number. -/
def exponent (x : Binary64) : Int := (max 1 x.exponentField : Nat) - 1075

/-- The size of a finite number, rounded toward zero. -/
def floorSize (x : Binary64) : Nat :=
  if 0 ≤ x.exponent then x.significand * Nat.pow 2 x.exponent.toNat
  else x.significand / Nat.pow 2 (-x.exponent).toNat

/-- A finite number rounded toward zero. -/
def truncate (x : Binary64) : Int :=
  if x.negative then -(x.floorSize : Int) else (x.floorSize : Int)

/-- Whether a finite number has no fraction. -/
def isIntegral (x : Binary64) : Bool :=
  0 ≤ x.exponent || x.significand % Nat.pow 2 (-x.exponent).toNat == 0

/-- Why a number has no integer part. -/
inductive NonFinite
  | infinity
  | nan
  deriving DecidableEq, Repr

/-- The complaint about a number without integer part. -/
def NonFinite.message : NonFinite → String
  | .infinity => "cannot convert float infinity to integer"
  | .nan => "cannot convert float NaN to integer"

/-- The integer part, rounded toward zero. -/
def toInt (x : Binary64) : Except NonFinite Int :=
  if x.isNaN then .error .nan
  else if x.isFinite then .ok x.truncate
  else .error .infinity

/-! ## Rounding -/

/-- The quotient rounded to the nearest integer, a tie to the even one. -/
def roundQuotient (num den : Nat) : Nat :=
  let q := num / den
  let twice := 2 * (num % den)
  if twice < den then q else if den < twice then q + 1 else q + q % 2

/-- The fraction `num / (den * 2 ^ e)` with natural numbers above and below. -/
def scale (num den : Nat) (e : Int) : Nat × Nat :=
  if 0 ≤ e then (num, den * Nat.pow 2 e.toNat) else (num * Nat.pow 2 (-e).toNat, den)

/-- The exponent at which a positive quotient has 53 binary digits before the point, or the
    least one there is. -/
def unitExponent (num den : Nat) : Int :=
  let e := max ((num.log2 : Int) - den.log2 - 53) (-1074)
  let (n, d) := scale num den e
  if Nat.pow 2 53 ≤ n / d then e + 1 else e

/-- The nearest number to the quotient `num / den` of natural numbers, a tie to the even
    significand; infinity from half a unit beyond the largest finite number on. -/
def ofQuotient (negative : Bool) (num den : Nat) : Binary64 :=
  if num = 0 then ofMagnitude negative 0
  else
    let e := unitExponent num den
    let (n, d) := scale num den e
    ofMagnitude negative
      (min ((e + 1074).toNat * Nat.pow 2 52 + roundQuotient n d) (topExponent * Nat.pow 2 52))

/-- The nearest number to an integer. -/
def ofInt (n : Int) : Binary64 := ofQuotient (n < 0) n.natAbs 1

/-- The number of decimal digits; 0 for 0. -/
def decimalLength (n : Nat) : Nat := if n = 0 then 0 else (Nat.toDigits 10 n).length

/-- The nearest number to `m * 10 ^ e`. Numbers beyond 10 ^ 310 or below 10 ^ (-330) are far
    outside the range, so their powers of ten are not computed. -/
def ofDecimal (negative : Bool) (m : Nat) (e : Int) : Binary64 :=
  if m = 0 then ofMagnitude negative 0
  else if 310 < decimalLength m + e then infinity negative
  else if decimalLength m + e < -330 then ofMagnitude negative 0
  else if 0 ≤ e then ofQuotient negative (m * Nat.pow 10 e.toNat) 1
  else ofQuotient negative m (Nat.pow 10 (-e).toNat)

end Binary64

end HexRules
