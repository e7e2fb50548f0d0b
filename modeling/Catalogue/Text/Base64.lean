/-! Bytes in an alphabet of sixty-four characters. Three bytes become four
characters; equals signs fill up the last group. -/
namespace Catalogue.Text

/-- The characters of the numbers from 0 to 63. -/
def base64Alphabet : List Char :=
  "ABCDEFGHIJKLMNOPQRSTUVWXYZabcdefghijklmnopqrstuvwxyz0123456789+/".toList

/-- The four characters of a number of 24 bits. -/
def base64Group (n : Nat) : List Char :=
  [18, 12, 6, 0].map fun shift => base64Alphabet.getD (n >>> shift % 64) '='

/-- Bytes as text. -/
def base64 : List UInt8 → List Char
  | a :: b :: c :: rest =>
    base64Group (a.toNat * 65536 + b.toNat * 256 + c.toNat) ++ base64 rest
  | [a, b] => (base64Group (a.toNat * 65536 + b.toNat * 256)).take 3 ++ ['=']
  | [a] => (base64Group (a.toNat * 65536)).take 2 ++ ['=', '=']
  | [] => []

end Catalogue.Text
