import Catalogue.Number.Arithmetic
import Catalogue.Text.Case
import Catalogue.Text.Loose
import Catalogue.Text.Utf8

/-! Cells of the index: nothing, an integer, a number, a text or bytes. Bytes can be
taken for a text even if no text is written so. Cells are ordered by kind and then by value. A comparison with nothing is neither true nor
false (`Truth`). -/
namespace Catalogue.Index

open Number (Binary64 Numeric intText)

/-! ### Truth -/

/-- True, false, or neither. -/
abbrev Truth := Option Bool

namespace Truth

/-- The opposite; neither stays neither. -/
def not : Truth → Truth := Option.map Bool.not

/-- True if both are, false if one is. -/
def and : Truth → Truth → Truth
  | some false, _ | _, some false => some false
  | some true, some true => some true
  | _, _ => none

/-- True if one is, false if both are. -/
def or : Truth → Truth → Truth
  | some true, _ | _, some true => some true
  | some false, some false => some false
  | _, _ => none

/-- Whether some of several are true. -/
def any (ts : List Truth) : Truth := ts.foldr or (some false)

/-- Whether all of several are true. -/
def all (ts : List Truth) : Truth := ts.foldr and (some true)

end Truth

/-! ### Cells -/

inductive Cell where
  | null
  | int (n : Int)
  | real (x : Binary64)
  | text (s : String)
  /-- Bytes that are taken for a text, but are not the bytes of any. No cell is stored so. -/
  | brokenText (bytes : List UInt8)
  | blob (bytes : List UInt8)
  deriving DecidableEq, Repr, Inhabited

namespace Cell

def isNull : Cell → Bool
  | null => true
  | _ => false

/-- A text, or nothing. -/
def ofText? : Option String → Cell
  | some s => text s
  | none => null

/-- An integer, or nothing. -/
def ofInt? : Option Int → Cell
  | some n => int n
  | none => null

def ofNumeric : Numeric → Cell
  | .int n => int n
  | .real x => real x

/-- Bytes taken for a text. -/
def ofBytes (bytes : List UInt8) : Cell :=
  match Text.Utf8.text? bytes with
  | some s => text s
  | none => brokenText bytes

/-- The cell as a text. -/
def asText : Cell → Cell
  | int n => text (String.ofList (intText n))
  | real x => text (String.ofList x.significantText)
  | blob bytes => ofBytes bytes
  | c => c

/-- The text that a cell is, if it is one. -/
def text? : Cell → Option String
  | text s => some s
  | _ => none

/-- A byte in lower case, if it is one of the letters A to Z. -/
def lowerByte (b : UInt8) : UInt8 := if 65 ≤ b && b ≤ 90 then b + 32 else b

/-- The cell as a text with the letters A to Z in lower case. -/
def folded (c : Cell) : Cell :=
  match c.asText with
  | text s => text (Text.asciiLowercase s)
  | brokenText bytes => brokenText (bytes.map lowerByte)
  | c => c

/-- The characters of the cell as a text, read loosely; none if there is no cell. -/
def characters? (c : Cell) : Option (List Char) :=
  match c.asText with
  | text s => some (s.toList.map Text.looseForm)
  | brokenText bytes => some (Text.loosely bytes)
  | _ => none

/-! ### Order -/

/-- Kinds in their order; integers and other numbers are of one kind. -/
def kind : Cell → Nat
  | null => 0
  | int _ | real _ => 1
  | text _ | brokenText _ => 2
  | blob _ => 3

/-- The bytes of a text, or bytes themselves. -/
def bytes : Cell → List UInt8
  | text s => Text.Utf8.encode s
  | brokenText bs | blob bs => bs
  | _ => []

/-- How two lists of bytes compare. -/
def compareBytes : List UInt8 → List UInt8 → Ordering
  | [], [] => .eq
  | [], _ :: _ => .lt
  | _ :: _, [] => .gt
  | a :: as, b :: bs => if a < b then .lt else if b < a then .gt else compareBytes as bs

/-- How two cells compare: by kind, then numbers by value, texts and bytes byte by byte. -/
def order : Cell → Cell → Ordering
  | int m, int n => compare m n
  | int m, real x => Binary64.compareInt m x
  | real x, int n => (Binary64.compareInt n x).swap
  | real x, real y => compare x.orderKey y.orderKey
  | text s, text t => if s < t then .lt else if s = t then .eq else .gt
  | a, b => if a.kind == b.kind then compareBytes a.bytes b.bytes else compare a.kind b.kind

/-- A comparison that is neither true nor false when one side is nothing. -/
def test (p : Ordering → Bool) (a b : Cell) : Truth :=
  if a.isNull || b.isNull then none else some (p (order a b))

/-- Whether two cells are equal. -/
def equal : Cell → Cell → Truth := test (· == .eq)

/-- Whether the first cell is not above the second. -/
def atMost : Cell → Cell → Truth := test (· != .gt)

/-- Whether the first cell is not below the second. -/
def atLeast : Cell → Cell → Truth := test (· != .lt)

end Cell
end Catalogue.Index
