/-! Numbers written with the digits of a base of up to sixteen. After nine the
digits are letters, small or capital. -/
namespace Catalogue.Number

/-- The value of a digit of a base. -/
def digitValue? (base : Nat) (c : Char) : Option Nat :=
  let value : Option Nat :=
    if '0' ≤ c && c ≤ '9' then some (c.toNat - '0'.toNat)
    else if 'a' ≤ c && c ≤ 'f' then some (c.toNat - 'a'.toNat + 10)
    else if 'A' ≤ c && c ≤ 'F' then some (c.toNat - 'A'.toNat + 10)
    else none
  value.filter (· < base)

/-- The value of digits of a base that follow a number. -/
def extendedBy? (base : Nat) (n : Nat) : List Char → Option Nat
  | [] => some n
  | c :: rest => (digitValue? base c).bind fun d => extendedBy? base (n * base + d) rest

/-- The number that digits of a base spell; no digits spell zero. -/
def ofDigits? (base : Nat) (ds : List Char) : Option Nat := extendedBy? base 0 ds

end Catalogue.Number
