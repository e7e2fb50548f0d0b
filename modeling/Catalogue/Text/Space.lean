/-! White space, and what is done at it: trimming both ends of a text and
splitting a text into words. -/
namespace Catalogue.Text

/-- White space of every script: the property White_Space of the character database. -/
def isSpace (c : Char) : Bool :=
  let n := c.toNat
  (0x09 ≤ n && n ≤ 0x0D) || n == 0x20 || n == 0x85 || n == 0xA0 || n == 0x1680 ||
    (0x2000 ≤ n && n ≤ 0x200A) || n == 0x2028 || n == 0x2029 || n == 0x202F || n == 0x205F ||
    n == 0x3000

/-! ### Trimming -/

/-- The text without white space at its start. -/
def trimStart (s : List Char) : List Char := s.dropWhile isSpace

/-- The text without white space at its end. -/
def trimEnd (s : List Char) : List Char := (s.reverse.dropWhile isSpace).reverse

/-- The text without white space at either end. -/
def trim (s : String) : String := String.ofList (trimEnd (trimStart s.toList))

/-- Whether the text holds nothing but white space. -/
def isBlank (s : String) : Bool := s.toList.all isSpace

/-! ### Words -/

/-- The words of a text that continues a word of which `word` is read, last character first. -/
def wordsFrom (word : List Char) : List Char → List (List Char)
  | [] => if word.isEmpty then [] else [word.reverse]
  | c :: rest =>
    if isSpace c then
      if word.isEmpty then wordsFrom [] rest else word.reverse :: wordsFrom [] rest
    else wordsFrom (c :: word) rest

/-- The maximal runs of characters that are not white space. -/
def words (s : List Char) : List (List Char) := wordsFrom [] s

/-- The words with one plain space between neighbours. -/
def joinWords (ws : List (List Char)) : List Char := [' '].intercalate ws

end Catalogue.Text
