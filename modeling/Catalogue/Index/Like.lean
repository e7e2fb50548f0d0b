import Catalogue.Text.Case

/-! Patterns with wild cards: `%` stands for any run of characters, `_` for any
one, and a backslash makes the next character stand for itself. The letters A to
Z match in either case. `containing` writes the pattern of a text that occurs
somewhere. -/
namespace Catalogue.Index.Like

/-- A piece of a pattern. -/
inductive Piece where
  | anyRun
  | anyOne
  | literal (c : Char)
  deriving DecidableEq, Repr

/-- The pieces of a pattern; none if it breaks off after a backslash. -/
def pieces? : List Char → Option (List Piece)
  | [] => some []
  | ['\\'] => none
  | '\\' :: c :: rest => (pieces? rest).map (.literal c :: ·)
  | '%' :: rest => (pieces? rest).map (.anyRun :: ·)
  | '_' :: rest => (pieces? rest).map (.anyOne :: ·)
  | c :: rest => (pieces? rest).map (.literal c :: ·)

/-- Whether pieces stand for a whole text. -/
def covers : List Piece → List Char → Bool
  | [], s => s.isEmpty
  | .anyRun :: ps, [] => covers ps []
  | .anyRun :: ps, c :: s => covers ps (c :: s) || covers (.anyRun :: ps) s
  | .anyOne :: _, [] => false
  | .anyOne :: ps, _ :: s => covers ps s
  | .literal _ :: _, [] => false
  | .literal p :: ps, c :: s => p.toLower == c.toLower && covers ps s
termination_by ps s => ps.length + s.length

/-- The text before its first zero character, where matching stops. -/
def beforeZero (s : List Char) : List Char := s.takeWhile (· ≠ '\x00')

/-- Whether a text matches a pattern. -/
def holds (pattern text : List Char) : Bool :=
  match pieces? (beforeZero pattern) with
  | some ps => covers ps (beforeZero text)
  | none => false

/-- A character that stands for itself in a pattern. -/
def escaped (c : Char) : List Char :=
  if c = '%' || c = '_' || c = '\\' then ['\\', c] else [c]

/-- The pattern of the texts that contain a text. -/
def containing (s : String) : String := String.ofList (['%'] ++ s.toList.flatMap escaped ++ ['%'])

end Catalogue.Index.Like
