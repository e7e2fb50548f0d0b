import Catalogue.Number.Base
import Catalogue.Text.Utf8

/-! Percent escapes: a percent sign and two hexadecimal digits stand for a byte.
Each part of an address has characters of its own that must be escaped in it;
controls and everything beyond ASCII must be escaped everywhere. -/
namespace Catalogue.Web

/-- A byte as an escape. -/
def escapeByte (b : UInt8) : List Char :=
  '%' :: [b.toNat / 16, b.toNat % 16].map fun d => (Nat.digitChar d).toUpper

/-- A text with the characters of a set escaped, and those that must be escaped everywhere. -/
def escape (set : List Char) (s : List Char) : List Char :=
  s.flatMap fun c =>
    if c.toNat < 0x20 || 0x7E < c.toNat || set.contains c then
      (String.utf8EncodeChar c).flatMap escapeByte
    else [c]

/-- The bytes of a text whose escapes stand for bytes. A percent sign that starts no escape
stands for itself. -/
def unescape : List Char → List UInt8
  | '%' :: a :: b :: rest =>
    match Number.ofDigits? 16 [a, b] with
    | some n => UInt8.ofNat n :: unescape rest
    | none => 0x25 :: unescape (a :: b :: rest)
  | c :: rest => String.utf8EncodeChar c ++ unescape rest
  | [] => []

/-- The text whose escapes stand for bytes, if these bytes are a text. -/
def unescaped? (s : List Char) : Option (List Char) :=
  (Text.Utf8.text? (unescape s)).map String.toList

/-! ### What is escaped where -/

def fragmentSet : List Char := [' ', '"', '<', '>', '\x60']

def querySet : List Char := [' ', '"', '#', '<', '>']

def pathSet : List Char := fragmentSet ++ ['#', '?', '\x7b', '\x7d']

def userSet : List Char := pathSet ++ ['/', ':', ';', '=', '@', '[', '\\', ']', '^', '|']

end Catalogue.Web
