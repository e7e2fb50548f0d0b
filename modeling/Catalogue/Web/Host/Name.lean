import Catalogue.Text.Case
import Catalogue.Text.Property.Composed
import Catalogue.Text.Property.Direction
import Catalogue.Text.Property.PlainForm
import Catalogue.Web.Host.Punycode

/-! Names of hosts, in the one form in which they are looked up: small letters,
labels between full stops, and a label beyond ASCII written in ASCII after `xn--`.
A label that begins so already must stand for one that would be written so. -/
namespace Catalogue.Web.HostName

open Text (Direction compose runsOneWay)

/-- Marks that no host has. -/
def marks : List Char := ['#', '/', ':', '<', '>', '?', '@', '[', '\\', ']', '^', '|']

/-- ASCII characters that no name has. -/
def barred (c : Char) : Bool :=
  c.toNat ≤ 0x20 || c.toNat == 0x7F || c == '%' || marks.contains c

/-- What a character is read as: the text that it is a shape of, or its lower-case form. -/
def readAs (c : Char) : List Char :=
  if Text.traceless.holds c then [] else (Text.plainForm? c).getD (Text.lower c)

/-- Whether a label beyond ASCII can have the character. -/
def fits (c : Char) : Bool :=
  if c.toNat < 0x80 then !barred c
  else !(Text.unprintables.holds c || Text.unreadableForms.holds c)

/-- What a label that stands for one beyond ASCII begins with. -/
def flag : List Char := "xn--".toList

/-- Whether the text is a label beyond ASCII. -/
def isForeign (label : List Char) : Bool :=
  label.any (0x80 ≤ ·.toNat) && label.all fits && !flag.isPrefixOf label &&
    !label.head?.any Text.graphemeExtenders.holds

/-- A label as it is written in ASCII, and as it is spoken. -/
structure Label where
  written : List Char
  spoken : List Char
  deriving DecidableEq, Repr

/-- The label of a text whose characters are read. -/
def label? (s : List Char) : Option Label :=
  if s.any (0x80 ≤ ·.toNat) then
    if isForeign s then some ⟨flag ++ Punycode.encode s, s⟩ else none
  else if flag.isPrefixOf s then
    match Punycode.decode? (s.drop flag.length) with
    | some foreign =>
      if isForeign foreign && compose (foreign.flatMap readAs) = foreign then some ⟨s, foreign⟩ else none
    | none => none
  else some ⟨s, s⟩

/-- Whether the labels can stand beside each other: if one has writing from right to left, each
runs one way. -/
def agree (labels : List Label) : Bool :=
  let turns (c : Char) : Bool := Direction.of c = .right || Direction.of c = .arabicDigit
  !labels.any (·.spoken.any turns) || labels.all fun l => runsOneWay l.spoken

/-- The form of a name. -/
def normal? (s : List Char) : Option (List Char) := do
  let labels ← ((compose (s.flatMap readAs)).splitOn '.').mapM label?
  let name := ['.'].intercalate (labels.map Label.written)
  if name.isEmpty || name.any barred || !agree labels then none else some name

end Catalogue.Web.HostName
