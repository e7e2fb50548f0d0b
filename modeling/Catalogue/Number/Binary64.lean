/-! Binary floating-point numbers of 64 bits. A finite number is a sign and
`mantissa · 2 ^ exponent`; `ofRatio` rounds a quotient to the nearest of them,
a tie to the even mantissa, and goes to infinity beyond the largest. -/
namespace Catalogue.Number

/-- A floating-point number, given by its bits: sign, 11 bits of exponent, 52 bits of fraction. -/
structure Binary64 where
  bits : UInt64
  deriving DecidableEq, Repr, Inhabited

namespace Binary64

/-! ### Parts -/

/-- The bit of the sign: `2 ^ 63`. -/
def signBit : Nat := 9223372036854775808

/-- The bit that the mantissa has before its fraction, if it is not tiny: `2 ^ 52`. -/
def hiddenBit : Nat := 4503599627370496

/-- The bits without the sign. They order numbers of one sign by magnitude. -/
def magnitude (x : Binary64) : Nat := x.bits.toNat % signBit

/-- Whether the sign bit is set. -/
def negative (x : Binary64) : Bool := signBit ≤ x.bits.toNat

/-- The bits of infinity without the sign. -/
def infinityBits : Nat := 2047 * hiddenBit

/-- The number with these magnitude bits and this sign. -/
def ofMagnitude (negative : Bool) (magnitude : Nat) : Binary64 :=
  ⟨UInt64.ofNat (if negative then signBit + magnitude else magnitude)⟩

def isNaN (x : Binary64) : Bool := infinityBits < x.magnitude
def isInfinite (x : Binary64) : Bool := x.magnitude == infinityBits
def isFinite (x : Binary64) : Bool := x.magnitude < infinityBits
def isZero (x : Binary64) : Bool := x.magnitude == 0

/-- The integer that, times a power of two, is the magnitude of a finite number. -/
def mantissa (x : Binary64) : Nat :=
  if x.magnitude < hiddenBit then x.magnitude else hiddenBit + x.magnitude % hiddenBit

/-- The power of two that goes with `mantissa`. -/
def exponent (x : Binary64) : Int :=
  if x.magnitude < hiddenBit then -1074 else (x.magnitude / hiddenBit : Nat) - 1075

/-- The magnitude of a finite number as a quotient. -/
def ratio (x : Binary64) : Nat × Nat :=
  if 0 ≤ x.exponent then (x.mantissa * Nat.pow 2 x.exponent.toNat, 1)
  else (x.mantissa, Nat.pow 2 (-x.exponent).toNat)

/-! ### Rounding -/

/-- The integer nearest to `num / den`, a tie going to the even one. -/
def roundQuotient (num den : Nat) : Nat :=
  let q := num / den
  let twice := 2 * (num % den)
  if twice < den then q
  else if den < twice then q + 1
  else if q % 2 == 0 then q else q + 1

/-- `num · b ^ e` over `den`, for either sign of `e`, as a quotient. -/
def scale (b num den : Nat) (e : Int) : Nat × Nat :=
  if 0 ≤ e then (num * Nat.pow b e.toNat, den) else (num, den * Nat.pow b (-e).toNat)

/-- The largest `e` with `2 ^ e ≤ num / den`, for positive `num` and `den`. -/
def floorLog2 (num den : Nat) : Int :=
  let e : Int := (Nat.log2 num : Int) - Nat.log2 den
  let (n, d) := scale 2 num den (-e)
  if d ≤ n then e else e - 1

/-- The magnitude bits of the number nearest to `num / den`. -/
def ratioBits (num den : Nat) : Nat :=
  if num == 0 then 0
  else
    let q := max (floorLog2 num den - 52) (-1074)
    let (n, d) := scale 2 num den (-q)
    min ((q + 1074).toNat * hiddenBit + roundQuotient n d) infinityBits

/-- The number nearest to `num / den`. -/
def ofRatio (negative : Bool) (num den : Nat) : Binary64 :=
  ofMagnitude negative (ratioBits num den)

/-- The number nearest to an integer. -/
def ofInt (n : Int) : Binary64 := ofRatio (n < 0) n.natAbs 1

/-- The number nearest to `digits · 10 ^ exponent`. Exponents far outside the range of finite
numbers are decided by the count of digits. -/
def ofDecimal (negative : Bool) (digits : Nat) (exponent : Int) : Binary64 :=
  let size : Int := (Nat.toDigits 10 digits).length
  if digits == 0 then ofMagnitude negative 0
  else if 400 < size + exponent then ofMagnitude negative infinityBits
  else if size + exponent < -400 then ofMagnitude negative 0
  else
    let (num, den) := scale 10 digits 1 exponent
    ofRatio negative num den

def infinity (negative : Bool) : Binary64 := ofMagnitude negative infinityBits
def nan : Binary64 := ofMagnitude false (infinityBits + hiddenBit / 2)

/-! ### Order -/

/-- An integer that orders numbers other than NaN as their values do. -/
def orderKey (x : Binary64) : Int := if x.negative then -x.magnitude else x.magnitude

/-- Whether one number is less than another; never for NaN. -/
def less (x y : Binary64) : Bool := !x.isNaN && !y.isNaN && x.orderKey < y.orderKey

/-- Whether a number lies between two others, ends included; never for NaN. -/
def between (lo hi x : Binary64) : Bool := !x.isNaN && lo.orderKey ≤ x.orderKey && x.orderKey ≤ hi.orderKey

def zero : Binary64 := ⟨0⟩
def one : Binary64 := ofInt 1

end Binary64
end Catalogue.Number
