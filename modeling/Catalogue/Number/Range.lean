/-! Ranges of integers, and those of words of 32 and 64 bits. -/
namespace Catalogue.Number

/-- The integers from `low` to `high`. -/
structure IntRange where
  low : Int
  high : Int
  deriving DecidableEq, Repr

/-- Whether the range holds the integer. -/
def IntRange.holds (r : IntRange) (n : Int) : Bool := r.low ≤ n && n ≤ r.high

/-- Signed integers of 32 bits. -/
def int32 : IntRange := ⟨-2147483648, 2147483647⟩
/-- Signed integers of 64 bits. -/
def int64 : IntRange := ⟨-9223372036854775808, 9223372036854775807⟩
/-- Unsigned integers of 32 bits. -/
def nat32 : IntRange := ⟨0, 4294967295⟩
/-- Unsigned integers of 64 bits. -/
def nat64 : IntRange := ⟨0, 18446744073709551615⟩

end Catalogue.Number
