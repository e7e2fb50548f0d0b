import Catalogue.Text.Quoted

/-! Bytes read as text. Bytes that are not part of a well-formed character are
kept as broken pieces, each as long as the longest start of a character that
they form. -/
namespace Catalogue.Text.Utf8

/-- A character read from bytes, or bytes that form none. -/
inductive Piece where
  | char (c : Char)
  | broken (bytes : List UInt8)
  deriving DecidableEq, Repr

/-- How many bytes follow a leading byte, and the range of the first of them. -/
def following (lead : UInt8) : Option (Nat × Nat × Nat) :=
  let n := lead.toNat
  if 0xC2 ≤ n && n ≤ 0xDF then some (1, 0x80, 0xBF)
  else if n == 0xE0 then some (2, 0xA0, 0xBF)
  else if n == 0xED then some (2, 0x80, 0x9F)
  else if 0xE1 ≤ n && n ≤ 0xEF then some (2, 0x80, 0xBF)
  else if n == 0xF0 then some (3, 0x90, 0xBF)
  else if n == 0xF4 then some (3, 0x80, 0x8F)
  else if 0xF1 ≤ n && n ≤ 0xF3 then some (3, 0x80, 0xBF)
  else none

/-- The bits that a leading byte contributes. -/
def leadBits (lead : UInt8) : Nat :=
  let n := lead.toNat
  if n < 0xE0 then n % 0x20 else if n < 0xF0 then n % 0x10 else n % 0x08

/-- A character of which `taken` bytes are read (last first) and `missing` are not. -/
structure Pending where
  taken : List UInt8
  value : Nat
  missing : Nat
  low : Nat
  high : Nat

/-- Reads bytes one at a time, with the character that is being read. -/
def decodeFrom : Option Pending → List UInt8 → List Piece
  | none, [] => []
  | some p, [] => [.broken p.taken.reverse]
  | pending, b :: rest =>
    let start : List Piece × Option Pending :=
      if b.toNat < 0x80 then ([.char (Char.ofNat b.toNat)], none)
      else match following b with
        | some (missing, low, high) => ([], some ⟨[b], leadBits b, missing, low, high⟩)
        | none => ([.broken [b]], none)
    match pending with
    | none => start.1 ++ decodeFrom start.2 rest
    | some p =>
      if p.low ≤ b.toNat && b.toNat ≤ p.high then
        let value := p.value * 64 + b.toNat % 64
        if p.missing ≤ 1 then .char (Char.ofNat value) :: decodeFrom none rest
        else decodeFrom (some ⟨b :: p.taken, value, p.missing - 1, 0x80, 0xBF⟩) rest
      else .broken p.taken.reverse :: (start.1 ++ decodeFrom start.2 rest)

/-- The characters and broken pieces of a sequence of bytes. -/
def decode (bytes : List UInt8) : List Piece := decodeFrom none bytes

/-- The bytes of a text. -/
def encode (s : String) : List UInt8 := s.toList.flatMap String.utf8EncodeChar

/-- The character of a piece that is not broken. -/
def Piece.char? : Piece → Option Char
  | char c => some c
  | broken _ => none

/-- The text that the bytes are, if none of them is broken. -/
def text? (bytes : List UInt8) : Option String :=
  ((decode bytes).mapM Piece.char?).map String.ofList

/-- The text of the bytes, with a replacement character for each broken piece. -/
def lossyText (bytes : List UInt8) : String :=
  String.ofList ((decode bytes).map fun p => p.char?.getD '\uFFFD')

/-- A byte shown as an escape of two capital digits. -/
def byteEscape (b : UInt8) : List Char :=
  ['\\', 'x'] ++ ([b.toNat / 16, b.toNat % 16].map fun d => (Nat.digitChar d).toUpper)

/-- A piece inside double quotes. -/
def Piece.quoted : Piece → List Char
  | char c => quotedChar c
  | broken bytes => bytes.flatMap byteEscape

/-- Bytes between double quotes: characters as in a quoted text, and broken bytes as escapes. -/
def quotedBytes (bytes : List UInt8) : String :=
  String.ofList (['"'] ++ (decode bytes).flatMap Piece.quoted ++ ['"'])

end Catalogue.Text.Utf8
