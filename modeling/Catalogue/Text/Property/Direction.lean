import Catalogue.Text.Property.Alphanumeric
import Catalogue.Text.Property.Display

/-! The direction of a line of writing that a character belongs to. -/
namespace Catalogue.Text

/-- Letters of scripts that run from right to left. -/
def rightToLeft : CharSet := [
  ⟨1470, 1470, 1⟩, ⟨1472, 1472, 1⟩, ⟨1475, 1475, 1⟩, ⟨1478, 1478, 1⟩, ⟨1488, 1524, 1⟩,
  ⟨1544, 1544, 1⟩, ⟨1547, 1547, 1⟩, ⟨1549, 1549, 1⟩, ⟨1563, 1610, 1⟩, ⟨1645, 1647, 1⟩,
  ⟨1649, 1749, 1⟩, ⟨1765, 1766, 1⟩, ⟨1774, 1775, 1⟩, ⟨1786, 1808, 1⟩, ⟨1810, 1839, 1⟩,
  ⟨1869, 1957, 1⟩, ⟨1969, 2026, 1⟩, ⟨2036, 2037, 1⟩, ⟨2042, 2042, 1⟩, ⟨2046, 2069, 1⟩,
  ⟨2074, 2074, 1⟩, ⟨2084, 2084, 1⟩, ⟨2088, 2088, 1⟩, ⟨2096, 2136, 1⟩, ⟨2142, 2190, 1⟩,
  ⟨2208, 2249, 1⟩, ⟨64434, 64450, 1⟩, ⟨65139, 65139, 1⟩, ⟨67584, 67867, 1⟩, ⟨67872, 68096, 1⟩,
  ⟨68112, 68149, 1⟩, ⟨68160, 68324, 1⟩, ⟨68331, 68405, 1⟩, ⟨68416, 68899, 1⟩, ⟨69248, 69289, 1⟩,
  ⟨69293, 69297, 1⟩, ⟨69376, 69445, 1⟩, ⟨69457, 69505, 1⟩, ⟨69510, 69622, 1⟩, ⟨124928, 125135, 1⟩,
  ⟨125218, 125251, 1⟩, ⟨125259, 126269, 1⟩]

/-- Digits that go with Arabic script. -/
def arabicDigits : CharSet := [⟨1632, 1641, 1⟩, ⟨1643, 1644, 1⟩, ⟨68912, 69246, 1⟩]

/-- Digits that go with any script. -/
def commonDigits : CharSet := [⟨48, 57, 1⟩, ⟨1776, 1785, 1⟩, ⟨66273, 66299, 1⟩]

/-- What a character is for the direction of a line. -/
inductive Direction where
  | left
  | right
  | arabicDigit
  | commonDigit
  | mark
  | neutral
  deriving DecidableEq, Repr

def Direction.of (c : Char) : Direction :=
  if rightToLeft.holds c then right
  else if arabicDigits.holds c then arabicDigit
  else if commonDigits.holds c then commonDigit
  else if graphemeExtenders.holds c then mark
  else if alphanumerics.holds c then left
  else neutral

/-- Whether a text can stand in a line that has writing from right to left: it begins with a letter,
ends with a letter or digit but for marks, and mixes neither directions nor digits. A text from
left to right has no Arabic digits. -/
def runsOneWay (s : List Char) : Bool :=
  let all := s.map Direction.of
  let last := all.reverse.find? (· != .mark)
  match all.head? with
  | none => true
  | some .right =>
    !all.contains .left && last != some .neutral &&
      !(all.contains .arabicDigit && all.contains .commonDigit)
  | some .left =>
    !all.contains .right && !all.contains .arabicDigit && last != some .neutral
  | some _ => false

end Catalogue.Text
