import Catalogue.Web.Escape
import Catalogue.Web.Host.Name

/-! Hosts: a name, or an address of 32 bits (four numbers) or of 128 bits (eight
pieces). A name whose last label is a number is an address of 32 bits and must be
a good one. -/
namespace Catalogue.Web

/-- A host. Names are in the form in which they are looked up. -/
inductive Host where
  | name (text : List Char)
  | four (address : UInt32)
  | eight (pieces : List UInt16)
  deriving DecidableEq, Repr

namespace Host

/-! ### Four numbers -/

/-- A number: octal after a zero, hexadecimal after `0x`. -/
def number? : List Char → Option Nat
  | [] => none
  | '0' :: 'x' :: ds => Number.ofDigits? 16 ds
  | '0' :: 'X' :: ds => Number.ofDigits? 16 ds
  | '0' :: d :: ds => Number.ofDigits? 8 (d :: ds)
  | ds => Number.ofDigits? 10 ds

/-- The labels of a name. A full stop at its end begins no label. -/
def labels (name : List Char) : List (List Char) :=
  (if name.getLast? = some '.' then name.dropLast else name).splitOn '.'

/-- Whether the last label is a number, if only by being all digits. -/
def endsInNumber (name : List Char) : Bool :=
  (labels name).getLast?.any fun last =>
    (number? last).isSome || (!last.isEmpty && last.all Char.isDigit)

/-- The address that labels spell: the last number fills what the others leave. -/
def four? (labels : List (List Char)) : Option Host := do
  let numbers ← labels.mapM number?
  let front := numbers.dropLast
  let last ← numbers.getLast?
  if 3 < front.length || front.any (255 < ·) || Nat.pow 256 (4 - front.length) ≤ last then none
  else
    let high := front.zipIdx.foldl (fun sum (n, i) => sum + n * Nat.pow 256 (3 - i)) 0
    return four (UInt32.ofNat (high + last))

/-! ### Eight pieces -/

/-- A piece of one to four hexadecimal digits. -/
def piece? (s : List Char) : Option (List UInt16) :=
  if s.isEmpty || 4 < s.length then none
  else (Number.ofDigits? 16 s).map fun n => [UInt16.ofNat n]

/-- A number below 256 without a zero in front. -/
def byte? (s : List Char) : Option Nat :=
  if s.isEmpty || 3 < s.length || (1 < s.length && s.head? = some '0') then none
  else (Number.ofDigits? 10 s).filter (· < 256)

/-- The last two pieces as four numbers. -/
def lastPieces? (s : List Char) : Option (List UInt16) := do
  match ← (s.splitOn '.').mapM byte? with
  | [a, b, c, d] => return [UInt16.ofNat (256 * a + b), UInt16.ofNat (256 * c + d)]
  | _ => none

/-- Pieces between colons. -/
def pieces? : List (List Char) → Option (List UInt16)
  | [] => some []
  | [s] => if s.contains '.' then lastPieces? s else piece? s
  | s :: rest => do return (← piece? s) ++ (← pieces? rest)

/-- Pieces between colons, or none at all. -/
def run? (s : List Char) : Option (List UInt16) :=
  if s.isEmpty then some [] else pieces? (s.splitOn ':')

/-- What stands before the first double colon, and what after it. -/
def cut : List Char → Option (List Char × List Char)
  | ':' :: ':' :: rest => some ([], rest)
  | c :: rest => (cut rest).map fun (before, after) => (c :: before, after)
  | [] => none

/-- An address of eight pieces. A double colon stands for as many zeros as are missing, at least one. -/
def eight? (s : List Char) : Option Host := do
  match cut s with
  | none =>
    let all ← run? s
    if all.length = 8 then some (eight all) else none
  | some (before, after) =>
    if before.contains '.' then none
    else
      let front ← run? before
      let back ← run? after
      let missing := 8 - (front.length + back.length)
      if missing = 0 then none else some (eight (front ++ List.replicate missing 0 ++ back))

/-! ### Reading -/

/-- Characters that a host cannot have even if nothing is known about its scheme. -/
def barred (c : Char) : Bool := c == '\x00' || c == ' ' || HostName.marks.contains c

/-- The host of a text. A name is brought into its form only where hosts of the scheme are `known`
to be looked up; any other is escaped and kept. -/
def parse? (known : Bool) (s : List Char) : Option Host :=
  if s.head? = some '[' then
    if s.getLast? = some ']' then eight? (s.drop 1).dropLast else none
  else if known then do
    let n ← HostName.normal? (← unescaped? s)
    if endsInNumber n then four? (labels n) else return name n
  else if s.any barred then none
  else some (name (escape [] s))

/-! ### Writing -/

/-- How many zeros a list begins with. -/
def zeros (pieces : List UInt16) : Nat := (pieces.takeWhile (· == 0)).length

/-- Where the longest run of zeros begins and how long it is; of several the first. -/
def longestZeros : List UInt16 → Nat × Nat
  | [] => (0, 0)
  | p :: rest =>
    let (start, length) := longestZeros rest
    let here := zeros (p :: rest)
    if length ≤ here then (0, here) else (start + 1, length)

/-- Pieces with colons between them. -/
def colons (pieces : List UInt16) : List Char :=
  [':'].intercalate (pieces.map fun p => Nat.toDigits 16 p.toNat)

/-- The host in an address. The longest run of two zeros or more is written as a double colon. -/
def text : Host → List Char
  | name s => s
  | four address =>
    ['.'].intercalate ([24, 16, 8, 0].map fun shift => Nat.toDigits 10 (address.toNat >>> shift % 256))
  | eight pieces =>
    let (start, length) := longestZeros pieces
    if length < 2 then '[' :: colons pieces ++ [']']
    else '[' :: colons (pieces.take start) ++ [':', ':'] ++ colons (pieces.drop (start + length)) ++ [']']

end Host
end Catalogue.Web
