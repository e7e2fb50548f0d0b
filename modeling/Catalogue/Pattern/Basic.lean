import Catalogue.Text.Property.Word

/-! Text patterns as values. The meaning of a pattern is the list of ways in
which it can match at a place, best first: an alternative before the other,
many before few where repetition is greedy and few before many where it is
lazy. A search takes the leftmost place with a way and its best way there. -/
namespace Catalogue

/-- A text pattern. -/
inductive Pattern where
  /-- No characters. -/
  | empty
  /-- One character of a class. -/
  | one (holds : Char → Bool)
  | seq (a b : Pattern)
  /-- The first, or else the second. -/
  | either (a b : Pattern)
  /-- Any number of times, as often as possible or as seldom. -/
  | many (lazily : Bool) (a : Pattern)
  /-- What it matches is kept under a number. -/
  | capture (n : Nat) (a : Pattern)
  /-- Between a word character and something else. -/
  | wordEdge
  /-- At the end of the text. -/
  | textEnd

namespace Pattern

/-! ### Places and matches -/

/-- A place in a text, with what has been captured on the way to it. -/
structure Place where
  /-- How many characters come before. -/
  pos : Nat
  /-- The character before, if any. -/
  previous : Option Char
  rest : List Char
  captures : List (Nat × List Char)

/-- The place after the next character. -/
def Place.next (s : Place) (c : Char) (rest : List Char) : Place :=
  { s with pos := s.pos + 1, previous := some c, rest := rest }

/-- The start of a text. -/
def Place.start (text : List Char) : Place := ⟨0, none, text, []⟩

/-- What is captured under a number. -/
def Place.captured? (s : Place) (n : Nat) : Option (List Char) :=
  (s.captures.find? (·.1 == n)).map (·.2)

/-- Whether there is a word character before and none after, or the other way round. -/
def Place.atWordEdge (s : Place) : Bool :=
  let isWord (c : Option Char) : Bool := c.any Text.wordCharacters.holds
  isWord s.previous != isWord s.rest.head?

/-- The ways of repeating a step at most `fuel` times; every repetition moves on. -/
def repeated (lazily : Bool) (step : Place → List Place) : Nat → Place → List Place
  | 0, s => [s]
  | fuel + 1, s =>
    let more := ((step s).filter fun t => s.pos < t.pos).flatMap (repeated lazily step fuel)
    if lazily then s :: more else more ++ [s]

/-- The places where a match that starts at a place can end, best first. -/
def outcomes : Pattern → Place → List Place
  | empty, s => [s]
  | one holds, s =>
    match s.rest with
    | c :: rest => if holds c then [s.next c rest] else []
    | [] => []
  | seq a b, s => (a.outcomes s).flatMap b.outcomes
  | either a b, s => a.outcomes s ++ b.outcomes s
  | many lazily a, s => repeated lazily a.outcomes s.rest.length s
  | capture n a, s =>
    (a.outcomes s).map fun t => { t with captures := (n, s.rest.take (t.pos - s.pos)) :: t.captures }
  | wordEdge, s => if s.atWordEdge then [s] else []
  | textEnd, s => if s.rest.isEmpty then [s] else []

/-! ### Searching -/

/-- The end of the leftmost match from a place on that has `rest` after it. -/
def findFrom (p : Pattern) (s : Place) : List Char → Option Place
  | [] => (p.outcomes { s with rest := [] }).head?
  | c :: rest =>
    match (p.outcomes { s with rest := c :: rest }).head? with
    | some t => some t
    | none => findFrom p (s.next c rest) rest

/-- The leftmost matches, each after the end of the one before, at most `fuel` of them. -/
def matchesFrom (p : Pattern) : Nat → Place → List Place
  | 0, _ => []
  | fuel + 1, s =>
    match p.findFrom { s with captures := [] } s.rest with
    | some t => t :: (if s.pos < t.pos then matchesFrom p fuel t else [])
    | none => []

/-- The matches in a text that do not overlap, from left to right. -/
def allMatches (p : Pattern) (text : List Char) : List Place :=
  p.matchesFrom (text.length + 1) (.start text)

/-! ### Building -/

/-- One after the other. -/
def chain : List Pattern → Pattern
  | [] => empty
  | [p] => p
  | p :: rest => seq p (chain rest)

/-- The first of several that matches. -/
def oneOf : List Pattern → Pattern
  | [] => one fun _ => false
  | [p] => p
  | p :: rest => either p (oneOf rest)

/-- Any number of times, as often as possible. -/
def star (p : Pattern) : Pattern := many false p
/-- At least once, as often as possible. -/
def plus (p : Pattern) : Pattern := seq p (star p)
/-- At least once, as seldom as possible. -/
def plusLazy (p : Pattern) : Pattern := seq p (many true p)
/-- Once, or else not at all. -/
def optional (p : Pattern) : Pattern := either p empty
/-- At most so many times, as often as possible. -/
def upTo (p : Pattern) : Nat → Pattern
  | 0 => empty
  | more + 1 => optional (seq p (upTo p more))
/-- From `low` to `low + more` times, as often as possible. -/
def times (p : Pattern) : Nat → Nat → Pattern
  | 0, more => upTo p more
  | low + 1, more => seq p (times p low more)

/-- A letter from a to z in either case. The Kelvin sign is a capital k and the long s is an s. -/
def foldsTo (letter c : Char) : Bool :=
  c.toLower == letter || (letter == 'k' && c == '\u212A') || (letter == 's' && c == '\u017F')

/-- The letters of a word in either case; other characters as they are. -/
def word (s : String) : Pattern := chain (s.toList.map fun l => one (foldsTo l))

end Pattern
end Catalogue
