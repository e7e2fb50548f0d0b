import Catalogue.Number.Binary64

/-! Decimal notation of binary floating-point numbers: the fewest digits that
read back, the layouts in which they are written, and the reading of numerals. -/
namespace Catalogue.Number

/-- Digits and the power of ten that they are multiplied by. -/
structure Decimal where
  digits : Nat
  exponent : Int
  deriving DecidableEq, Repr

/-- The decimal digits of a number. -/
def decimalDigits (n : Nat) : List Char := Nat.toDigits 10 n

/-- An integer in decimal. -/
def intText (n : Int) : List Char :=
  if n < 0 then '-' :: decimalDigits n.natAbs else decimalDigits n.natAbs

/-- The value of a run of decimal digits. -/
def digitsValue (ds : List Char) : Nat :=
  ds.foldl (fun n d => 10 * n + (d.toNat - '0'.toNat)) 0

namespace Decimal

/-- The same number without zeros at the end of its digits, of which `fuel` may be dropped. -/
def stripZeros : Nat → Decimal → Decimal
  | 0, d => d
  | fuel + 1, d =>
    if d.digits != 0 && d.digits % 10 == 0 then stripZeros fuel ⟨d.digits / 10, d.exponent + 1⟩ else d

/-- The number of digits. -/
def size (d : Decimal) : Nat := (decimalDigits d.digits).length

/-- The power of ten of the first digit. -/
def leading (d : Decimal) : Int := d.exponent + d.size - 1

/-! ### The fewest digits that read back -/

/-- Whether the decimal reads back as a positive number. -/
def readsBack (x : Binary64) (d : Decimal) : Bool :=
  Binary64.ofDecimal false d.digits d.exponent == Binary64.ofMagnitude false x.magnitude

/-- The least `k` with `num / den < 10 ^ k`, looked for in four places around an estimate. -/
def integerPlaces (num den : Nat) : Int :=
  let guess : Int := Binary64.floorLog2 num den * 30103 / 100000
  let above (k : Int) : Bool := let (n, d) := Binary64.scale 10 num den (-k); n < d
  if above (guess - 1) then guess - 1
  else if above guess then guess
  else if above (guess + 1) then guess + 1
  else guess + 2

/-- Which of two neighbours is taken for a number halfway between them. -/
inductive Halfway where
  | toEven | up
  deriving DecidableEq, Repr

/-- The integer nearest to `num / den`. -/
def Halfway.round : Halfway → Nat → Nat → Nat
  | toEven, num, den => Binary64.roundQuotient num den
  | up, num, den => (2 * num + den) / (2 * den)

/-- Of the two neighbours of a number on the grid of multiples of `10 ^ e`, one that reads back:
the nearer if both do. -/
def neighbour? (half : Halfway) (x : Binary64) (e : Int) : Option Decimal :=
  let (num, den) := x.ratio
  let (n, d) := Binary64.scale 10 num den (-e)
  let below : Decimal := ⟨n / d, e⟩
  let above : Decimal := ⟨n / d + 1, e⟩
  match readsBack x below, readsBack x above with
  | true, true => if half.round n d == n / d then some below else some above
  | true, false => some below
  | false, true => some above
  | false, false => none

/-- All digits of a finite number. -/
def exact (x : Binary64) : Decimal :=
  if 0 ≤ x.exponent then ⟨x.mantissa * Nat.pow 2 x.exponent.toNat, 0⟩
  else ⟨x.mantissa * Nat.pow 5 (-x.exponent).toNat, x.exponent⟩

/-- The decimal with the fewest digits that reads back as the magnitude of a finite number. -/
def shortest (half : Halfway) (x : Binary64) : Decimal :=
  if x.isZero then ⟨0, 0⟩
  else
    let (num, den) := x.ratio
    let places := integerPlaces num den
    let found := (List.range 17).findSome? fun n => neighbour? half x (places - (n + 1 : Nat))
    (found.getD (exact x)).stripZeros 20

/-! ### Layouts -/

/-- The digits with a decimal point where it belongs and no exponent. `whole` is what follows the
digits of a whole number. -/
def positional (whole : List Char) (d : Decimal) : List Char :=
  let ds := decimalDigits d.digits
  if 0 ≤ d.exponent then ds ++ List.replicate d.exponent.toNat '0' ++ whole
  else
    let places := (-d.exponent).toNat
    if places < ds.length then ds.take (ds.length - places) ++ ['.'] ++ ds.drop (ds.length - places)
    else ['0', '.'] ++ List.replicate (places - ds.length) '0' ++ ds

/-- One digit before the point, and the power of ten with its sign. -/
def scientific (d : Decimal) : List Char :=
  let ds := decimalDigits d.digits
  let e := d.leading
  ds.take 1 ++ (if ds.length ≤ 1 then [] else '.' :: ds.drop 1) ++ ['e'] ++
    (if e < 0 then ['-'] else ['+']) ++ decimalDigits e.natAbs

end Decimal

namespace Binary64

/-- The sign of a number, if it is written. -/
def signText (x : Binary64) : List Char := if x.negative then ['-'] else []

/-- A finite number as interchange text: the fewest digits that read back, with a point or an
exponent; positional from `1e-5` up to but not including `1e16`. Of two decimals equally near it is the even
one. -/
def interchangeText (x : Binary64) : List Char :=
  let d := Decimal.shortest .toEven x
  x.signText ++
    if -5 ≤ d.leading && d.leading < 16 then d.positional ['.', '0'] else d.scientific

/-- A number in a message: the fewest digits that read back, never an exponent. Of two decimals
equally near it is the greater one. -/
def plainText (x : Binary64) : List Char :=
  if x.isNaN then ['N', 'a', 'N']
  else if x.isInfinite then x.signText ++ ['i', 'n', 'f']
  else x.signText ++ (Decimal.shortest .up x).positional []

/-- A number with two places, a tie going to the even neighbour. -/
def twoPlaces (x : Binary64) : List Char :=
  if x.isNaN then ['N', 'a', 'N']
  else if x.isInfinite then x.signText ++ ['i', 'n', 'f']
  else
    let (num, den) := x.ratio
    let hundredths := roundQuotient (num * 100) den
    let cents := decimalDigits (hundredths % 100)
    x.signText ++ decimalDigits (hundredths / 100) ++ ['.'] ++
      List.replicate (2 - cents.length) '0' ++ cents

end Binary64

/-! ### Numerals -/

/-- A numeral as it is written: sign, digits before and after the point, and the exponent. -/
structure Numeral where
  negative : Bool
  whole : List Char
  fraction : Option (List Char)
  exponent : Option Int
  deriving DecidableEq, Repr

namespace Numeral

/-- The floating-point number nearest to a numeral. -/
def toBinary64 (n : Numeral) : Binary64 :=
  let fraction := n.fraction.getD []
  Binary64.ofDecimal n.negative (digitsValue (n.whole ++ fraction)) (n.exponent.getD 0 - fraction.length)

end Numeral
end Catalogue.Number
