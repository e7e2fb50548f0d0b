import Catalogue.Number.Decimal
import Catalogue.Number.Range

/-! Integers written in decimal: an optional sign, then digits and nothing else. -/
namespace Catalogue.Number

/-- The value of a text of one or more digits. -/
def parseDigits? (ds : List Char) : Option Nat :=
  if ds.isEmpty || ds.any (fun c => c < '0' || '9' < c) then none else some (digitsValue ds)

/-- The integer that a text spells, if it lies within the range. A minus is read only where
negative numbers are in it. -/
def parseInteger? (range : IntRange) (s : String) : Option Int := do
  let n : Int ← match s.toList with
    | '+' :: ds => (parseDigits? ds).map Int.ofNat
    | '-' :: ds => if range.low < 0 then (parseDigits? ds).map fun n => -(n : Int) else none
    | ds => (parseDigits? ds).map Int.ofNat
  if range.holds n then some n else none

/-- A signed integer of 32 bits. -/
def parseInt32? : String → Option Int := parseInteger? int32

/-- A signed integer of 64 bits. -/
def parseInt64? : String → Option Int := parseInteger? int64

/-- An unsigned integer of 64 bits. -/
def parseNat64? (s : String) : Option Nat := (parseInteger? nat64 s).map Int.toNat

/-- An unsigned integer of 32 bits. -/
def parseNat32? (s : String) : Option Nat := (parseInteger? nat32 s).map Int.toNat

end Catalogue.Number
