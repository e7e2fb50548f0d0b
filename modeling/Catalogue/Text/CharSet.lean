/-! Sets of characters, given as a list of runs of code points. A run is every
`step`-th code point from `first` to `last`, so that scripts that alternate
capital and small letters stay short. -/
namespace Catalogue.Text

/-- Every `step`-th code point from `first` to `last`. -/
structure CharRun where
  first : Nat
  last : Nat
  step : Nat
  deriving DecidableEq, Repr

/-- Whether the run holds the code point. -/
def CharRun.holds (run : CharRun) (n : Nat) : Bool :=
  run.first ≤ n && n ≤ run.last && (n - run.first) % run.step == 0

/-- A set of characters as runs of code points. -/
abbrev CharSet := List CharRun

/-- Whether the set holds the character. -/
def CharSet.holds (set : CharSet) (c : Char) : Bool :=
  set.any (·.holds c.toNat)

end Catalogue.Text
