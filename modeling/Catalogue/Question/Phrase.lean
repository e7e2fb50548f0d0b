import Catalogue.Number.Integer
import Catalogue.Pattern.Basic
import Catalogue.Question.Language
import Catalogue.Text.MatchKey
import Catalogue.Text.Property.Letter

/-! The phrases by which a question names a publisher, years, a place and a
language. Each of these has a list of phrases, the most specific first; a phrase
is a pattern and what is taken from a match of it. A match from which nothing
can be taken does not count. -/
namespace Catalogue.Question

open Pattern Text

/-- A named pattern and what is taken from a match of it. -/
structure Phrase (α : Type) where
  name : String
  pattern : Pattern
  take : Place → Option α

/-- What the phrase takes from the first of its matches that yields something. -/
def Phrase.find {α : Type} (p : Phrase α) (text : List Char) : Option α :=
  (p.pattern.allMatches text).findSome? p.take

/-- The name and value of the first phrase that yields something. -/
def firstPhrase {α : Type} (phrases : List (Phrase α)) (text : List Char) : Option (String × α) :=
  phrases.findSome? fun p => (p.find text).map (p.name, ·)

/-! ### Characters -/

def space : Pattern := one isSpace
def spaces : Pattern := plus space
def digit : Pattern := one decimalDigits.holds
/-- Any character but a line feed. -/
def anything : Pattern := one (· != '\n')

/-- A letter, where case does not matter: one mark counts as the letter that it is a form of. -/
def isLetterAnyCase (c : Char) : Bool := letters.holds c || c == '\u0345'
def isLetter (c : Char) : Bool := letters.holds c
def isCapital (c : Char) : Bool := capitals.holds c

/-- Words with white space between them. -/
def phrase (ws : List Pattern) : Pattern :=
  chain (ws.intersperse spaces)

/-- The words at which a free-text name ends. -/
def clauseWords : List String :=
  ["between", "from", "during", "in", "at", "by", "after", "before", "around", "circa", "and",
    "printed", "published", "written"]

/-- The end of a free-text name: one of those words, a number, a mark, or the end of the text. -/
def clauseEnd : Pattern :=
  oneOf [chain [spaces, oneOf (clauseWords.map word), wordEdge], chain [spaces, digit],
    one fun c => [',', ';', '.', '?', '!'].contains c, textEnd]

/-! ### What is taken -/

/-- A captured text, trimmed. -/
def group (n : Nat) (m : Place) : Option String :=
  (m.captured? n).map fun cs => trim (String.ofList cs)

/-- The key of a captured name, without an article before it. -/
def takeName (m : Place) : Option String := do
  let key := (matchKey (← group 1 m)).toList
  let article := ['t', 'h', 'e', ' ']
  let name := trim (String.ofList (if article.isPrefixOf key then key.drop 4 else key))
  if name.isEmpty then none else some name

/-- Words that follow `in` or `at` but never name a place. -/
def nonPlaceWords : List String :=
  ["century", "centuries", "year", "years", "period", "time", "books", "editions"]

/-- The words of a key. -/
def keyWords (key : String) : List String := (words key.toList).map String.ofList

/-- The key of a captured place: no word of time or trade in it, not languages only, no digits. -/
def takePlace (m : Place) : Option String := do
  let key ← takeName m
  let ws := keyWords key
  if ws.any nonPlaceWords.contains then none
  else if ws.all isLanguageName then none
  else if ws.any fun w => w.toList.any fun c => '0' ≤ c && c ≤ '9' then none
  else some key

/-- Two captured years. -/
def takeYears (m : Place) : Option (Int × Int) := do
  return (← Number.parseInt32? (← group 1 m), ← Number.parseInt32? (← group 2 m))

/-- One captured year. -/
def takeYear (m : Place) : Option (Int × Int) := do
  let year ← Number.parseInt32? (← group 1 m)
  return (year, year)

/-- The first and last year of a century, up to the twenty-first. -/
def centuryBounds (n : Int) : Option (Int × Int) :=
  if 1 ≤ n && n ≤ 21 then some ((n - 1) * 100 + 1, n * 100) else none

/-- A century by its number. -/
def takeCentury (m : Place) : Option (Int × Int) := do
  centuryBounds (← Number.parseInt32? (← group 1 m))

/-- The names of the centuries, a longer one before one that it starts with. -/
def ordinals : List (String × Int) := [
  ("first", 1), ("second", 2), ("third", 3), ("fourth", 4), ("fifth", 5), ("sixth", 6),
  ("seventh", 7), ("eighth", 8), ("ninth", 9), ("tenth", 10), ("eleventh", 11), ("twelfth", 12),
  ("thirteenth", 13), ("fourteenth", 14), ("fifteenth", 15), ("sixteenth", 16),
  ("seventeenth", 17), ("eighteenth", 18), ("nineteenth", 19), ("twenty-first", 21),
  ("twentieth", 20)]

/-- A century by its name. -/
def takeOrdinal (m : Place) : Option (Int × Int) := do
  let name := lowercase (← group 1 m)
  centuryBounds (← (ordinals.find? (·.1 == name)).map (·.2))

/-- A language by any name. -/
def takeLanguage (m : Place) : Option String := (group 1 m).map languageCode

/-- A language by a name that is known. -/
def takeKnownLanguage (m : Place) : Option String := (group 1 m).bind languageCode?

/-! ### Phrases -/

/-- A name up to the end of its clause. -/
def freeName : Pattern := seq (capture 1 (plusLazy anything)) clauseEnd

def publisherPhrases : List (Phrase String) := [
  ⟨"published_by", chain [wordEdge, phrase [word "published", word "by", freeName]], takeName⟩,
  ⟨"publisher_named",
    chain [wordEdge, word "publisher", spaces,
      optional (oneOf [seq (word "is") spaces, seq (word "named") spaces, seq (word "called") spaces,
        seq (word ":") (star space)]), freeName], takeName⟩,
  ⟨"issued_by",
    chain [wordEdge,
      phrase [oneOf [word "issued", phrase [word "brought", word "out"]], word "by", freeName]],
    takeName⟩]

/-- A year of three or four digits, captured. -/
def yearGroup (n : Nat) : Pattern := capture n (times digit 3 1)

/-- White space or hyphens before the word century, and that word. -/
def centuryWord : Pattern :=
  chain [plus (one fun c => isSpace c || c == '-'), word "century", wordEdge]

def yearPhrases : List (Phrase (Int × Int)) := [
  ⟨"between_and",
    chain [wordEdge, phrase [word "between", yearGroup 1, word "and", yearGroup 2], wordEdge],
    takeYears⟩,
  ⟨"from_to",
    chain [wordEdge, phrase [word "from", yearGroup 1,
      oneOf [word "to", word "until", word "till", word "through"], yearGroup 2], wordEdge],
    takeYears⟩,
  ⟨"hyphenated",
    chain [wordEdge, yearGroup 1, star space, one fun c => c == '-' || c == '–', star space,
      yearGroup 2, wordEdge],
    takeYears⟩,
  ⟨"numeric_century",
    chain [wordEdge, capture 1 (times digit 1 1),
      oneOf [word "st", word "nd", word "rd", word "th"], centuryWord],
    takeCentury⟩,
  ⟨"ordinal_century",
    chain [wordEdge, capture 1 (oneOf (ordinals.map fun o => word o.1)), centuryWord],
    takeOrdinal⟩,
  ⟨"single_year",
    chain [wordEdge, phrase [oneOf [word "in", word "during", word "of", word "year"],
      capture 1 (times digit 4 0)], wordEdge],
    takeYear⟩]

/-- A capital letter and at least one letter, apostrophe or hyphen after it. -/
def capitalWord : Pattern :=
  seq (one isCapital) (plus (one fun c => isLetter c || c == '\'' || c == '-'))

def placePhrases : List (Phrase String) := [
  ⟨"printed_in",
    chain [wordEdge, phrase [
      oneOf [word "printed", word "published", word "issued", word "produced"],
      oneOf [word "in", word "at"],
      seq (capture 1 (seq (one isLetterAnyCase)
        (many true (one fun c => isLetterAnyCase c || c == '\'' || c == '-' || c == ' '))))
        clauseEnd]],
    takePlace⟩,
  ⟨"capitalized_in",
    chain [wordEdge, oneOf [chain [one (· == 'i'), one (· == 'n')], chain [one (· == 'a'), one (· == 't')]],
      spaces, capture 1 (seq capitalWord (star (seq spaces capitalWord)))],
    takePlace⟩]

/-- A word of letters and hyphens, captured. -/
def languageGroup : Pattern :=
  capture 1 (seq (one isLetterAnyCase) (star (one fun c => isLetterAnyCase c || c == '-')))

def languagePhrases : List (Phrase String) := [
  ⟨"written_in",
    chain [wordEdge, phrase [oneOf [word "written", word "composed"], word "in", languageGroup]],
    takeLanguage⟩,
  ⟨"language_word", chain [wordEdge, languageGroup, spaces, word "language", wordEdge], takeLanguage⟩,
  ⟨"known_in", chain [wordEdge, phrase [word "in", languageGroup]], takeKnownLanguage⟩,
  ⟨"adjective",
    chain [wordEdge, languageGroup, spaces,
      oneOf (["books", "works", "texts", "editions", "imprints", "incunabula", "printing"].map word),
      wordEdge],
    takeKnownLanguage⟩]

end Catalogue.Question
