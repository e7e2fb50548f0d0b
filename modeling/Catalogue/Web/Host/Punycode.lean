/-! Names beyond ASCII, written in ASCII. The ASCII characters come first; after a
hyphen follow the others, as the differences between one insertion and the next
when they are inserted in the order of their code points.

A difference is written as digits of base 36, the least first. The digit that ends
it lies below the threshold of its place, which follows the size of the
differences before it (`adapt`). -/
namespace Catalogue.Web.Punycode

/-! ### Digits -/

/-- Twenty-six letters, then ten digits. -/
def digit (n : Nat) : Char :=
  if n < 26 then Char.ofNat ('a'.toNat + n) else Char.ofNat ('0'.toNat + (n - 26))

/-- The number of a digit. -/
def number? (c : Char) : Option Nat :=
  if 'a' ≤ c && c ≤ 'z' then some (c.toNat - 'a'.toNat)
  else if 'A' ≤ c && c ≤ 'Z' then some (c.toNat - 'A'.toNat)
  else if '0' ≤ c && c ≤ '9' then some (c.toNat - '0'.toNat + 26)
  else none

/-- Below this a digit ends its number. `place` is 36 for the first digit and goes up by 36. -/
def threshold (bias place : Nat) : Nat := min 26 (max 1 (place - bias))

theorem threshold_pos (bias place : Nat) : 0 < threshold bias place := by
  unfold threshold; omega

/-- How often a difference is divided until it is small, and what is left of it. -/
def shrink (delta : Nat) : Nat × Nat :=
  if 455 < delta then
    let (times, rest) := shrink (delta / 35)
    (times + 1, rest)
  else (0, delta)
termination_by delta
decreasing_by omega

/-- The bias after a difference, when so many characters stand. -/
def adapt (delta standing : Nat) (first : Bool) : Nat :=
  let damped := if first then delta / 700 else delta / 2
  let (times, rest) := shrink (damped + damped / standing)
  36 * times + 36 * rest / (rest + 38)

/-- A number as digits, from a place on. -/
def digits (bias place n : Nat) : List Char :=
  let t := threshold bias place
  if n < t then [digit n]
  else digit (t + (n - t) % (36 - t)) :: digits bias (place + 36) ((n - t) / (36 - t))
termination_by n
decreasing_by
  have := threshold_pos bias place
  have := Nat.div_le_self (n - threshold bias place) (36 - threshold bias place)
  omega

/-- A number read from digits, and what follows them. `weight` is what a digit of the place is
worth and `sum` what the digits before it are. -/
def readDigits (bias place weight sum : Nat) : List Char → Option (Nat × List Char)
  | [] => none
  | c :: rest =>
    match number? c with
    | none => none
    | some n =>
      let t := threshold bias place
      if n < t then some (sum + n * weight, rest)
      else readDigits bias (place + 36) (weight * (36 - t)) (sum + n * weight) rest

/-! ### Writing -/

/-- What is written so far: the difference that grows towards the next insertion, the bias, and
how many characters stand. -/
structure Writing where
  written : List Char
  delta : Nat
  bias : Nat
  standing : Nat

/-- Goes over one character of the name while those of code point `n` are inserted. -/
def Writing.step (basic n : Nat) (w : Writing) (c : Char) : Writing :=
  if c.toNat < n then { w with delta := w.delta + 1 }
  else if c.toNat = n then
    { written := w.written ++ digits w.bias 36 w.delta
      delta := 0
      bias := adapt w.delta (w.standing + 1) (w.standing == basic)
      standing := w.standing + 1 }
  else w

/-- Inserts the characters of these code points, which lie at `from_` or beyond, in this order. -/
def Writing.insertAll (name : List Char) (basic : Nat) (from_ : Nat) (w : Writing) : List Nat → Writing
  | [] => w
  | n :: rest =>
    let started := { w with delta := w.delta + (n - from_) * (w.standing + 1) }
    let done := name.foldl (Writing.step basic n) started
    insertAll name basic (n + 1) { done with delta := done.delta + 1 } rest

/-- A name in ASCII. -/
def encode (name : List Char) : List Char :=
  let basic := name.filter fun c => c.toNat < 0x80
  let others := ((name.map Char.toNat).filter (0x80 ≤ ·)).mergeSort.eraseDups
  let start := if basic.isEmpty then [] else basic ++ ['-']
  (Writing.insertAll name basic.length 0x80 ⟨start, 0, 72, basic.length⟩ others).written

/-! ### Reading -/

/-- The character of a code point, if it is one. -/
def character? (n : Nat) : Option Char :=
  if h : n.isValidChar then some (Char.ofNatAux n h) else none

/-- Inserts what the differences say into a name. `n` and `i` are the code point and the place
that the last insertion led to. The fuel is the number of characters that are left to read. -/
def readAll (name : List Char) (n i bias : Nat) : Nat → List Char → Option (List Char)
  | _, [] => some name
  | 0, _ => none
  | fuel + 1, s => do
    let (next, rest) ← readDigits bias 36 1 i s
    let standing := name.length + 1
    let n := n + next / standing
    let place := next % standing
    let c ← character? n
    readAll (name.take place ++ c :: name.drop place) n (place + 1)
      (adapt (next - i) standing (i == 0)) fuel rest

/-- The name that a text in ASCII stands for. -/
def decode? (s : List Char) : Option (List Char) :=
  let (others, basic) := s.reverse.span (· != '-')
  let (start, rest) := if 1 < basic.length then ((basic.drop 1).reverse, others.reverse) else ([], s)
  readAll start 0x80 0 72 rest.length rest

end Catalogue.Web.Punycode
