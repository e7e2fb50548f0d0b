import Catalogue.Number.Decimal

/-! Floating-point numbers with a significand of 64 bits. The index scales by powers
of ten in them, a hundred places, ten places or one place at a time, and every
product is rounded. So a numeral is read as a number near the value it has
(`ofNumeral`), and a number is written from digits near its own (`decimalOf`):
the last bit of the one and the last digit of the other may be off. -/
namespace Catalogue.Number

/-- The number `significand · 2 ^ exponent`. Unless it is zero, the significand has 64 bits. -/
structure Extended where
  significand : Nat
  exponent : Int
  deriving DecidableEq, Repr

namespace Extended

/-! ### Arithmetic -/

/-- The bit that the significand always has: `2 ^ 63`. -/
def leadingBit : Nat := 9223372036854775808

/-- The number nearest to `n · 2 ^ e`, a tie going to the even significand. -/
def round (n : Nat) (e : Int) : Extended :=
  if n == 0 then ⟨0, 0⟩
  else
    let surplus : Int := (Nat.log2 n : Int) - 63
    let (num, den) := Binary64.scale 2 n 1 (-surplus)
    let q := Binary64.roundQuotient num den
    if q < 2 * leadingBit then ⟨q, e + surplus⟩ else ⟨leadingBit, e + surplus + 1⟩

/-- The number nearest to a power of ten. -/
def tenTo (e : Int) : Extended :=
  let (num, den) := Binary64.scale 10 1 1 e
  let places := 63 - Binary64.floorLog2 num den
  let (n, d) := Binary64.scale 2 num den places
  round (Binary64.roundQuotient n d) (-places)

def ofNat (n : Nat) : Extended := round n 0

/-- The product, rounded. -/
def mul (x y : Extended) : Extended := round (x.significand * y.significand) (x.exponent + y.exponent)

/-- The number as a quotient. -/
def ratio (x : Extended) : Nat × Nat := Binary64.scale 2 x.significand 1 x.exponent

/-- The integer below the number. -/
def floor (x : Extended) : Nat := x.ratio.1 / x.ratio.2

/-- Whether the number is not below another. -/
def atLeast (x y : Extended) : Bool := y.ratio.1 * x.ratio.2 ≤ x.ratio.1 * y.ratio.2

/-- The magnitude of a finite number of 64 bits, as it is. -/
def ofBinary64 (x : Binary64) : Extended := round x.mantissa x.exponent

/-- The number of 64 bits that is nearest, or infinity above the greatest finite one. -/
def toBinary64 (negative : Bool) (x : Extended) : Binary64 :=
  let greatest := ofBinary64 (Binary64.ofMagnitude false (Binary64.infinityBits - 1))
  if x.atLeast greatest && x != greatest then Binary64.infinity negative
  else Binary64.ofRatio negative x.ratio.1 x.ratio.2

/-! ### Scaling -/

def tenToHundred : Extended := tenTo 100
def tenToTen : Extended := tenTo 10
def ten : Extended := tenTo 1
def hundredPlaces : Extended := tenTo (-100)
def tenPlaces : Extended := tenTo (-10)
def onePlace : Extended := tenTo (-1)

/-- Some number of products with the same factor. -/
def mulTimes (factor : Extended) : Nat → Extended → Extended
  | 0, x => x
  | n + 1, x => mulTimes factor n (x.mul factor)

/-- The number times a power of ten, in steps of a hundred places, of ten and of one. -/
def scaled (x : Extended) (e : Int) : Extended :=
  let n := e.natAbs
  let steps (hundred ten one : Extended) : Extended :=
    mulTimes one (n % 10) (mulTimes ten (n % 100 / 10) (mulTimes hundred (n / 100) x))
  if 0 ≤ e then steps tenToHundred tenToTen ten else steps hundredPlaces tenPlaces onePlace

/-- A number with a count of decimal places by which it was moved. -/
structure Moved where
  value : Extended
  places : Int

/-- Moves a number by a factor of `10 ^ (-places)` for as long as a test asks for it, at most
`fuel` times. -/
def moveWhile (again : Extended → Bool) (factor : Extended) (places : Int) : Nat → Moved → Moved
  | 0, m => m
  | fuel + 1, m =>
    if again m.value then
      moveWhile again factor places fuel ⟨m.value.mul factor, m.places + places⟩
    else m

/-- Moves a positive number to where eighteen or nineteen of its digits stand before the point. -/
def gatherDigits (x : Extended) : Moved :=
  let below (e : Int) : Extended → Bool := fun y => !y.atLeast (tenTo e)
  let from_ (e : Int) : Extended → Bool := fun y => y.atLeast (tenTo e)
  if x.atLeast (tenTo 19) then
    moveWhile (from_ 19) onePlace 1 12
      (moveWhile (from_ 29) tenPlaces 10 12 (moveWhile (from_ 119) hundredPlaces 100 4 ⟨x, 0⟩))
  else
    moveWhile (below 17) ten (-1) 12
      (moveWhile (below 7) tenToTen (-10) 12 (moveWhile (below (-97)) tenToHundred (-100) 4 ⟨x, 0⟩))

/-- A decimal near a positive finite number, of eighteen or nineteen digits. -/
def decimalOf (x : Binary64) : Decimal :=
  let m := gatherDigits (ofBinary64 x)
  ⟨m.value.floor, m.places⟩

/-! ### Numerals -/

/-- A significand below this has room for one more digit. -/
def fullSignificand : Nat := 1844674407370955160

/-- Adds a digit before the point to a decimal; a digit that does not fit counts as a place. -/
def addWhole (d : Decimal) (c : Char) : Decimal :=
  if d.digits < fullSignificand then ⟨10 * d.digits + (c.toNat - '0'.toNat), d.exponent⟩
  else ⟨d.digits, d.exponent + 1⟩

/-- Adds a digit after the point to a decimal; a digit that does not fit is left out. -/
def addFraction (d : Decimal) (c : Char) : Decimal :=
  if d.digits < fullSignificand then ⟨10 * d.digits + (c.toNat - '0'.toNat), d.exponent - 1⟩ else d

/-- The same decimal with an exponent nearer to zero, as far as the digits fit and `fuel` lasts. -/
def settle : Nat → Decimal → Decimal
  | 0, d => d
  | fuel + 1, d =>
    if 0 < d.exponent && d.digits ≤ fullSignificand then settle fuel ⟨d.digits * 10, d.exponent - 1⟩
    else if d.exponent < 0 && d.digits % 10 == 0 then settle fuel ⟨d.digits / 10, d.exponent + 1⟩
    else d

/-- The number that a numeral is read as. -/
def ofNumeral (n : Numeral) : Binary64 :=
  let written := (n.fraction.getD []).foldl addFraction (n.whole.foldl addWhole ⟨0, 0⟩)
  let d := settle 20 ⟨written.digits, written.exponent + n.exponent.getD 0⟩
  if d.digits == 0 then Binary64.ofMagnitude n.negative 0
  else if d.exponent == 0 then Binary64.ofRatio n.negative d.digits 1
  else ((ofNat d.digits).scaled d.exponent).toBinary64 n.negative

end Extended
end Catalogue.Number
