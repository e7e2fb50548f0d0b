import Catalogue.Setting.Basic

/-! How the service is configured by environment variables. -/
namespace Catalogue

/-- What turns questions into plans: known phrases, or a language model. -/
inductive Backend where
  | heuristic | llm
  deriving DecidableEq, Repr, Inhabited

namespace Backend

def name : Backend → String
  | heuristic => "heuristic"
  | llm => "llm"

/-- The variable that names the backend. -/
def variableName : String := "BIBQUERY_COMPILER"

/-- The backend of a name, in any case. -/
def parse (s : String) : Except SettingError Backend :=
  match Text.asciiLowercase (Text.trim s) with
  | "heuristic" => .ok .heuristic
  | "llm" => .ok .llm
  | other => .error (.invalid variableName other "\x60heuristic\x60 or \x60llm\x60")

end Backend

structure Settings where
  indexPath : String
  backend : Backend
  /-- The file of the compile cache, which only a language model needs. -/
  cachePath : Option String
  /-- How many values of a facet are counted. -/
  facetTop : Nat
  /-- How many subject headings a retry is given. -/
  subjectHints : Nat
  deriving DecidableEq, Repr

namespace Settings

def default : Settings := ⟨"data/index/bibliographic.db", .heuristic, none, 10, 100⟩

/-- The settings that variables describe. -/
def ofEnvironment (env : Environment) : Except SettingError Settings := do
  let backend ← match ← env.text? Backend.variableName with
    | some s => Backend.parse s
    | none => pure default.backend
  let indexPath ← env.text? "BIBQUERY_INDEX_PATH"
  let cachePath ← env.text? "BIBQUERY_COMPILE_CACHE"
  let facetTop ← env.count "BIBQUERY_FACET_TOP_N" default.facetTop 1 100
  let subjectHints ← env.count "BIBQUERY_SUBJECT_HINTS" default.subjectHints 1 500
  return ⟨indexPath.getD default.indexPath, backend, cachePath, facetTop, subjectHints⟩

end Settings
end Catalogue
