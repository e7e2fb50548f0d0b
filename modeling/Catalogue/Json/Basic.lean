import Catalogue.Entries
import Catalogue.Number.Decimal
import Catalogue.Number.Range

/-! JSON values. Integers that fit 64 bits stay integers and every other number
is a floating-point number. An object is a list of entries; `object` brings them
into ascending order of their keys. -/
namespace Catalogue

open Number (Binary64)

inductive Json where
  | null
  | bool (b : Bool)
  | int (n : Int)
  | float (x : Binary64)
  | str (s : String)
  | arr (items : List Json)
  | obj (entries : List (String × Json))
  deriving Inhabited

namespace Json

/-! ### Objects -/

/-- An object with its keys in ascending order. -/
def object (entries : List (String × Json)) : Json := obj (Entries.sorted entries)

/-- The value under a key, if this is an object that has it. -/
def get? (key : String) : Json → Option Json
  | obj entries => Entries.get? key entries
  | _ => none

/-! ### Parts -/

def str? : Json → Option String
  | str s => some s
  | _ => none

def bool? : Json → Option Bool
  | bool b => some b
  | _ => none

def arr? : Json → Option (List Json)
  | arr items => some items
  | _ => none

/-- A signed integer of 64 bits. -/
def int64? : Json → Option Int
  | int n => if Number.int64.holds n then some n else none
  | _ => none

/-- A number, integers rounded to the nearest floating-point number. -/
def float? : Json → Option Binary64
  | int n => some (Binary64.ofInt n)
  | float x => some x
  | _ => none

def isNull : Json → Bool
  | null => true
  | _ => false

/-- A text, or null for none. -/
def ofText? : Option String → Json
  | some s => str s
  | none => null

/-- A number, or null for none. -/
def ofFloat? : Option Binary64 → Json
  | some x => float x
  | none => null

/-- A natural number as a JSON integer. -/
def nat (n : Nat) : Json := int n

/-- A list of texts. -/
def texts (ss : List String) : Json := arr (ss.map str)

end Json
end Catalogue
