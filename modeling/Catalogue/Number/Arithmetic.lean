import Catalogue.Number.Extended
import Catalogue.Number.Range

/-! Arithmetic on floating-point numbers, rounded to the nearest, and two more
notations: numbers to fifteen significant digits, and the number at the start of
a text. -/
namespace Catalogue.Number.Binary64

/-! ### Fractions -/

/-- A finite number as an integer over a natural number. -/
def fraction (x : Binary64) : Int × Nat :=
  let (num, den) := x.ratio
  (if x.negative then -num else num, den)

/-- The number nearest to a fraction. -/
def ofFraction (num : Int) (den : Nat) : Binary64 := ofRatio (num < 0) num.natAbs den

/-- What becomes of the fraction that a finite number is; other numbers stay as they are. -/
def onFraction (f : Int → Nat → Binary64) (x : Binary64) : Binary64 :=
  if x.isFinite then f x.fraction.1 x.fraction.2 else x

/-- A sum with an integer. -/
def addInt (x : Binary64) (n : Int) : Binary64 :=
  x.onFraction fun num den => ofFraction (num + n * den) den

/-- A product with a positive natural number. -/
def mulNat (x : Binary64) (n : Nat) : Binary64 :=
  x.onFraction fun num den => ofFraction (num * n) den

/-- A quotient by a positive natural number. -/
def divNat (x : Binary64) (n : Nat) : Binary64 :=
  x.onFraction fun num den => ofFraction num (den * n)

/-- How an integer compares with a number other than NaN. -/
def compareInt (n : Int) (x : Binary64) : Ordering :=
  if x.isInfinite then (if x.negative then .gt else .lt)
  else
    let (num, den) := x.fraction
    compare (n * den) num

/-- The integer that a finite number is, if it is one. -/
def integer? (x : Binary64) : Option Int :=
  let (num, den) := x.fraction
  if x.isFinite && num.natAbs % den == 0 then some (num / den) else none

/-! ### Fifteen significant digits -/

/-- A decimal rounded to its first fifteen digits, a tie going up, without zeros at the end. -/
def fifteenDigits (d : Decimal) : Decimal :=
  let surplus := d.size - 15
  let unit := Nat.pow 10 surplus
  (⟨(2 * d.digits + unit) / (2 * unit), d.exponent + surplus⟩ : Decimal).stripZeros 20

/-- A number to fifteen significant digits of those that it has after scaling. There is always a
digit after the point, and an exponent of at least two digits where the number is below `1e-4` or
not below `1e15`. Zero has no sign. -/
def significantText (x : Binary64) : List Char :=
  if x.isZero then ['0', '.', '0']
  else if x.isInfinite then x.signText ++ ['I', 'n', 'f']
  else
    let d := fifteenDigits (Extended.decimalOf x)
    let e := d.leading
    x.signText ++
      if -4 ≤ e && e < 15 then d.positional ['.', '0']
      else
        let ds := decimalDigits d.digits
        let es := decimalDigits e.natAbs
        ds.take 1 ++ ['.'] ++ (if ds.length ≤ 1 then ['0'] else ds.drop 1) ++
          ['e', if e < 0 then '-' else '+'] ++ List.replicate (2 - es.length) '0' ++ es

end Binary64

/-! ### The number at the start of a text -/

/-- An integer of 64 bits, or a floating-point number. -/
inductive Numeric where
  | int (n : Int)
  | real (x : Binary64)
  deriving DecidableEq, Repr

/-- The white space that may stand around a number. -/
def isMargin (c : Char) : Bool := c = ' ' || ('\t' ≤ c && c ≤ '\r')

/-- The digits at the start of a text, and the rest. -/
def spanDigits (s : List Char) : List Char × List Char :=
  (s.takeWhile fun c => '0' ≤ c && c ≤ '9', s.dropWhile fun c => '0' ≤ c && c ≤ '9')

/-- A sign at the start of a text (whether it is a minus), and the rest. -/
def spanSign : List Char → Bool × List Char
  | '-' :: rest => (true, rest)
  | '+' :: rest => (false, rest)
  | s => (false, s)

/-- The exponent at the start of a text, if there is one, and the rest. `value` is how its digits
are read. -/
def spanExponent (value : List Char → Nat) (s : List Char) : Option Int × List Char :=
  match s with
  | c :: rest =>
    if c = 'e' || c = 'E' then
      let (negative, rest) := spanSign rest
      let (ds, after) := spanDigits rest
      if ds.isEmpty then (none, s)
      else (some (if negative then -(value ds : Int) else value ds), after)
    else (none, s)
  | [] => (none, s)

/-- The value of the digits of an exponent. A digit that follows ten thousand or more makes it ten
thousand. -/
def exponentValue (ds : List Char) : Nat :=
  ds.foldl (fun n d => if n < 10000 then 10 * n + (d.toNat - '0'.toNat) else 10000) 0

/-- The number at the start of a text after any white space, and what follows it. Without any
digit it is zero. -/
def leadingNumber (s : List Char) : Numeric × List Char :=
  let (negative, s) := spanSign (s.dropWhile isMargin)
  let (whole, rest) := spanDigits s
  let (fraction, rest) := match rest with
    | '.' :: more => let (ds, after) := spanDigits more; (some ds, after)
    | _ => (none, rest)
  if whole.isEmpty && (fraction.getD []).isEmpty then (.int 0, s)
  else
    let (exponent, rest) := spanExponent exponentValue rest
    let n : Int := if negative then -(digitsValue whole : Int) else digitsValue whole
    if fraction.isNone && exponent.isNone && int64.holds n then (.int n, rest)
    else (.real (Extended.ofNumeral ⟨negative, whole, fraction, exponent⟩), rest)

/-- The number that a text is, white space around it aside. -/
def wholeNumber? (s : List Char) : Option Numeric :=
  let (n, rest) := leadingNumber s
  let digit := (s.takeWhile fun c => c != 'e' && c != 'E').any fun c => '0' ≤ c && c ≤ '9'
  if digit && rest.all isMargin then some n else none

/-! ### Floating-point words -/

/-- The floating-point number that a text spells: a decimal numeral, or a word for infinity or
for what is no number. -/
def parseBinary64? (s : String) : Option Binary64 :=
  let (negative, rest) := spanSign s.toList
  let word := String.ofList (rest.map Char.toLower)
  if word == "inf" || word == "infinity" then some (Binary64.infinity negative)
  else if word == "nan" then some Binary64.nan
  else
    let (whole, after) := spanDigits rest
    let (fraction, after) := match after with
      | '.' :: more => let (ds, r) := spanDigits more; (some ds, r)
      | _ => (none, after)
    let (exponent, after) := spanExponent digitsValue after
    if (whole.isEmpty && (fraction.getD []).isEmpty) || !after.isEmpty then none
    else some (Numeral.toBinary64 ⟨negative, whole, fraction, exponent⟩)

end Catalogue.Number
