import Catalogue.Setting.Basic
import Catalogue.Text.Occurrence

/-! The vendors whose language models can be asked, and how one of them is
configured by environment variables. -/
namespace Catalogue.Model

/-- Who runs the model. -/
inductive Vendor where
  | openai | anthropic
  deriving DecidableEq, Repr, Inhabited

namespace Vendor

def name : Vendor → String
  | openai => "openai"
  | anthropic => "anthropic"

/-- The variable that holds the key. -/
def keyVariable : Vendor → String
  | openai => "OPENAI_API_KEY"
  | anthropic => "ANTHROPIC_API_KEY"

/-- The variable that names the model. -/
def modelVariable : Vendor → String
  | openai => "OPENAI_MODEL"
  | anthropic => "ANTHROPIC_MODEL"

/-- The variable that holds the address. -/
def addressVariable : Vendor → String
  | openai => "OPENAI_BASE_URL"
  | anthropic => "ANTHROPIC_BASE_URL"

/-- The model that is asked if none is named. -/
def defaultModel : Vendor → String
  | openai => "gpt-4.1-mini"
  | anthropic => "claude-3-5-haiku-latest"

/-- The address that is used if none is set. -/
def defaultAddress : Vendor → String
  | openai => "https://api.openai.com"
  | anthropic => "https://api.anthropic.com"

/-- The variable that names the vendor. -/
def variableName : String := "BIBQUERY_LLM_PROVIDER"

/-- The vendor of a name, in any case. -/
def parse (s : String) : Except SettingError Vendor :=
  match Text.asciiLowercase (Text.trim s) with
  | "openai" => .ok .openai
  | "anthropic" => .ok .anthropic
  | other => .error (.invalid variableName other "openai|anthropic")

end Vendor

/-- How a model is reached. -/
structure Configuration where
  vendor : Vendor
  model : String
  address : String
  /-- A missing key is reported when the model is first asked. -/
  key : Option String
  /-- The version of the interface that one of the vendors wants to be told. -/
  interfaceVersion : String
  /-- Seconds to wait, if there is an end to waiting. -/
  timeout : Option Nat
  outputTokens : Nat
  /-- Whether a second answer may be asked for when the first holds no plan. -/
  repair : Bool
  deriving DecidableEq, Repr

namespace Configuration

/-- An address with a scheme and without slashes at its end. -/
def baseAddress (configured : Option String) (default : String) : String :=
  let s := String.ofList (((configured.getD default).toList.reverse.dropWhile (· = '/')).reverse)
  if Text.occursIn "://".toList s.toList then s else "https://" ++ s

/-- The greatest length of an answer, from a text that gives it. -/
def tokens (setting : Option String) : Except SettingError Nat :=
  match setting with
  | none => .ok 1200
  | some s =>
    match Number.parseNat32? s with
    | some 0 => .ok 1200
    | some n => .ok (min n 32000)
    | none => .error (.invalid "BIBQUERY_LLM_MAX_OUTPUT_TOKENS" s "integer tokens, e.g. 1200")

/-- The configuration that variables describe. -/
def ofEnvironment (env : Environment) : Except SettingError Configuration := do
  let vendor ← match ← env.text? Vendor.variableName with
    | some s => Vendor.parse s
    | none => pure .openai
  let outputTokens ← tokens (← env.text? "BIBQUERY_LLM_MAX_OUTPUT_TOKENS")
  let model ← env.text? vendor.modelVariable
  let address ← env.text? vendor.addressVariable
  let key ← env.text? vendor.keyVariable
  let version ← env.text? "ANTHROPIC_VERSION"
  let timeout ← env.timeout "BIBQUERY_LLM_TIMEOUT_SECS" 60
  return {
    vendor, key, timeout, outputTokens
    model := model.getD vendor.defaultModel
    address := baseAddress address vendor.defaultAddress
    interfaceVersion := version.getD "2023-06-01"
    repair := env.flag "BIBQUERY_LLM_JSON_REPAIR" }

end Configuration
end Catalogue.Model
