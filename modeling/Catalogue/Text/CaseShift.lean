import Catalogue.Text.CharSet

/-! Case tables: runs of characters whose other form lies a fixed distance away. -/
namespace Catalogue.Text

/-- Every `step`-th code point from `first` to `last` has its other form `shift` away. -/
structure CaseShift where
  first : Nat
  last : Nat
  step : Nat
  shift : Int
  deriving DecidableEq, Repr

/-- Whether the run holds the code point. -/
def CaseShift.holds (run : CaseShift) (n : Nat) : Bool :=
  run.first ≤ n && n ≤ run.last && (n - run.first) % run.step == 0

/-- The other form of `c`, or `c` itself where no run holds it. -/
def shiftCase (table : List CaseShift) (c : Char) : Char :=
  match table.find? (·.holds c.toNat) with
  | some run => Char.ofNat (c.toNat + run.shift).toNat
  | none => c

end Catalogue.Text
