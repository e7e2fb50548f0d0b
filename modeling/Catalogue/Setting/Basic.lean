import Catalogue.Number.Integer
import Catalogue.Text.Case
import Catalogue.Text.Space
import Catalogue.Text.Utf8

/-! Settings from environment variables. A blank variable means the default; one
that cannot be understood is an error that names it. -/
namespace Catalogue

open Text

/-- The variables that are set, with the bytes of their values. -/
abbrev Environment := List (String × List UInt8)

/-- Why a setting cannot be had. -/
inductive SettingError where
  | invalid (name value expected : String)
  | notText (name : String) (value : List UInt8)
  deriving DecidableEq, Repr

namespace SettingError

/-- What is wrong with a value that is no text. -/
def notTextDetail (value : List UInt8) : String :=
  "environment variable was not valid unicode: " ++ Utf8.quotedBytes value

def message : SettingError → String
  | invalid name value expected =>
    "invalid " ++ name ++ "=" ++ quoted value ++ " (expected " ++ expected ++ ")"
  | notText name value => "failed to read " ++ name ++ ": " ++ notTextDetail value

/-- The message, and after it whatever caused the error. -/
def chain : SettingError → List String
  | invalid name value expected => [(invalid name value expected).message]
  | notText name value => [(notText name value).message, notTextDetail value]

end SettingError

namespace Environment

variable (env : Environment)

/-- The bytes of a variable that is set. -/
def value? (name : String) : Option (List UInt8) := (env.find? (·.1 == name)).map (·.2)

/-- A variable's trimmed text, unless it is blank. -/
def text? (name : String) : Except SettingError (Option String) :=
  match env.value? name with
  | none => .ok none
  | some bytes =>
    match Utf8.text? bytes with
    | none => .error (.notText name bytes)
    | some s => .ok (if isBlank s then none else some (trim s))

/-- A count, moved into the bounds. -/
def count (name : String) (default low high : Nat) : Except SettingError Nat := do
  match ← env.text? name with
  | none => return default
  | some s =>
    match Number.parseNat64? s with
    | some n => return min (max n low) high
    | none => throw (.invalid name s "integer")

/-- A timeout in whole seconds; zero is none. -/
def timeout (name : String) (default : Nat) : Except SettingError (Option Nat) := do
  let seconds ← match ← env.text? name with
    | none => pure default
    | some s =>
      match Number.parseNat64? s with
      | some n => pure n
      | none => throw (.invalid name s "integer seconds; 0 disables")
  return if seconds = 0 then none else some seconds

/-- A switch that is on unless it is turned off. -/
def flag (name : String) : Bool :=
  match (env.value? name).bind Utf8.text? with
  | none => true
  | some s => not (["0", "false", "no", "off"].contains (asciiLowercase (trim s)))

end Environment
end Catalogue
