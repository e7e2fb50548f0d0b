/-! Bytes read as characters without checking them. A byte of the upper half starts
a character with all bytes that continue it, however many they are, or is one by
itself if nothing before it can be continued. Well-formed text reads as itself,
but for the two characters `U+FFFE` and `U+FFFF`, which read as the replacement
character (`looseForm`). -/
namespace Catalogue.Text

/-- What a character reads as. -/
def looseForm (c : Char) : Char := if c = '\uFFFE' || c = '\uFFFF' then '\uFFFD' else c

/-- The character of a code that is put together from several bytes. A code that is none reads as
the replacement character, and one beyond the last character as `U+FFFF`, which nothing else
reads as. -/
def looseChar (code : Nat) : Char :=
  if 0x10FFFF < code then '\uFFFF'
  else if code < 0x80 || (0xD800 ≤ code && code ≤ 0xDFFF) then '\uFFFD'
  else looseForm (Char.ofNat code)

/-- The bits that a leading byte contributes. -/
def looseLead (b : UInt8) : Nat :=
  let n := b.toNat
  if n < 0xE0 then n % 0x20
  else if n < 0xF0 then n % 0x10
  else if n < 0xF8 then n % 0x08
  else if n < 0xFC then n % 0x04
  else if n < 0xFE then n % 0x02
  else 0

/-- Whether a byte continues a character. -/
def continues (b : UInt8) : Bool := 0x80 ≤ b.toNat && b.toNat < 0xC0

/-- The code of a character, of 32 bits, after one more byte. -/
def looseStep (code : Nat) (b : UInt8) : Nat := (code * 64 + b.toNat % 64) % 4294967296

/-- Reads bytes one at a time, with the code of the character that is being read. -/
def looseFrom : Option Nat → List UInt8 → List Char
  | none, [] => []
  | some code, [] => [looseChar code]
  | none, b :: rest =>
    if b.toNat < 0xC0 then Char.ofNat b.toNat :: looseFrom none rest
    else looseFrom (some (looseLead b)) rest
  | some code, b :: rest =>
    if continues b then looseFrom (some (looseStep code b)) rest
    else if b.toNat < 0xC0 then looseChar code :: Char.ofNat b.toNat :: looseFrom none rest
    else looseChar code :: looseFrom (some (looseLead b)) rest

/-- The characters that bytes read as. -/
def loosely (bytes : List UInt8) : List Char := looseFrom none bytes

end Catalogue.Text
