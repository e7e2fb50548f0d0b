import Catalogue.Text.Case
import Catalogue.Text.Property.Alphanumeric
import Catalogue.Text.Space

/-! Lookup keys. The index stores names beside their match keys, and a query
compares match keys, so both sides use `matchKey`. Codes and controlled terms
are compared by `foldedCode`. -/
namespace Catalogue.Text

/-- What a key keeps of one lower-case character: letters, numbers and hyphens as they are,
a sharp s as two letters, white space as a plain space, and of brackets and other marks nothing. -/
def keyCharacters (c : Char) : List Char :=
  if c = 'ß' then ['s', 's']
  else if c = '[' || c = ']' then []
  else if alphanumerics.holds c || c = '-' then [c]
  else if isSpace c then [' ']
  else []

/-- The match key of a text, over its characters. -/
def matchKeyChars (s : List Char) : List Char :=
  joinWords (words ((s.flatMap lower).flatMap keyCharacters))

/-- The match key of a publisher, place or agent name. -/
def matchKey (s : String) : String := String.ofList (matchKeyChars s.toList)

/-- The form in which codes and controlled terms are compared: trimmed and in lower case. -/
def foldedCode (s : String) : String := lowercase (trim s)

end Catalogue.Text
