import Catalogue.Text.Property.CaseContext
import Catalogue.Text.Property.Lowercase

/-! Lower case. A character has a lower-case form of its own (`lower`); a whole
text (`lowercase`) follows it except at a capital sigma, which becomes a final
sigma at the end of a word. -/
namespace Catalogue.Text

/-- The lower-case form of one character: two characters for a dotted capital I, else one. -/
def lower (c : Char) : List Char :=
  if c = 'İ' then ['i', '\u0307'] else [shiftCase lowercaseShifts c]

/-- Whether the first character that is not passed over has a case. -/
def meetsCased (s : List Char) : Bool :=
  match s.dropWhile caseIgnorables.holds with
  | c :: _ => casedCharacters.holds c
  | [] => false

/-- Whether a sigma between these characters ends a word; `before` is read backwards. -/
def endsWord (before after : List Char) : Bool :=
  meetsCased before && !meetsCased after

/-- Lower case of a text that follows `before`, which is read backwards. -/
def lowercaseAfter (before : List Char) : List Char → List Char
  | [] => []
  | c :: rest =>
    (if c = 'Σ' then [if endsWord before rest then 'ς' else 'σ'] else lower c) ++
      lowercaseAfter (c :: before) rest

/-- Lower case of a whole text. -/
def lowercase (s : String) : String := String.ofList (lowercaseAfter [] s.toList)

/-- Lower case of the letters A to Z alone. -/
def asciiLowercase (s : String) : String := String.ofList (s.toList.map Char.toLower)

end Catalogue.Text
