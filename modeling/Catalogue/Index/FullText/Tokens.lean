import Catalogue.Index.FullText.Alphabet
import Catalogue.Text.CharSet
import Catalogue.Text.Occurrence
import Catalogue.Text.Space

/-! The full-text index: texts are cut into tokens, and a search asks for phrases
of tokens. A search is written as quoted strings with white space between them;
`quoteWords` writes it so that every word of a text is a string of its own and
nothing in the text is taken for an operator. -/
namespace Catalogue.Index.FullText

open Text

/-! ### Tokens -/

/-- A token character in the form in which tokens are compared. -/
def fold (c : Char) : Char := shiftCase foldShifts c

/-- The tokens of a text that continues a token of which `token` is read, last character first. -/
def tokensFrom (token : List Char) : List Char → List (List Char)
  | [] => if token.isEmpty then [] else [token.reverse]
  | c :: rest =>
    if tokenCharacters.holds c then tokensFrom (fold c :: token) rest
    else if token.isEmpty then tokensFrom [] rest
    else if vanishingAccents.holds c then tokensFrom token rest
    else token.reverse :: tokensFrom [] rest

/-- The tokens of a text. -/
def tokens (s : List Char) : List (List Char) := tokensFrom [] s

/-! ### Searches -/

/-- A word between quotes, with its own quotes doubled. -/
def quoteWord (word : List Char) : List Char :=
  ['"'] ++ word.flatMap (fun c => if c = '"' then ['"', '"'] else [c]) ++ ['"']

/-- The search for all words of a text. -/
def quoteWords (s : String) : String := String.ofList (joinWords ((words s.toList).map quoteWord))

/-- White space between strings. -/
def isGap (c : Char) : Bool := c = ' ' || c = '\t' || c = '\n' || c = '\r'

/-- Where the reading of a search is: between strings, inside one, or after a quote inside one.
The string is kept last character first. -/
inductive ReadState where
  | between
  | inside (word : List Char)
  | afterQuote (word : List Char)

/-- Reads strings from a state on. -/
def stringsFrom : ReadState → List Char → Option (List (List Char))
  | .between, [] => some []
  | .inside _, [] => none
  | .afterQuote word, [] => some [word.reverse]
  | .between, c :: rest =>
    if isGap c then stringsFrom .between rest
    else if c = '"' then stringsFrom (.inside []) rest
    else none
  | .inside word, c :: rest =>
    if c = '"' then stringsFrom (.afterQuote word) rest
    else if c = '\x00' then none
    else stringsFrom (.inside (c :: word)) rest
  | .afterQuote word, c :: rest =>
    if c = '"' then stringsFrom (.inside (c :: word)) rest
    else if isGap c then (stringsFrom .between rest).map (word.reverse :: ·)
    else none

/-- The strings of a search; none if it is written otherwise. -/
def strings? (search : String) : Option (List (List Char)) := stringsFrom .between search.toList

/-- Whether a text has all phrases. Phrases without tokens do not count; if there are no others,
no text has them. -/
def holds (phrases : List (List Char)) (text : List Char) : Bool :=
  let wanted := (phrases.map tokens).filter (!·.isEmpty)
  !wanted.isEmpty && wanted.all fun phrase => occursIn phrase (tokens text)

end Catalogue.Index.FullText
