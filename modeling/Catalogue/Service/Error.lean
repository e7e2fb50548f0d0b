import Catalogue.Index.Execution
import Catalogue.Setting.Basic

/-! Everything that can go wrong with a question, and what the person who asked it
is told. -/
namespace Catalogue

/-- Why a compile cache cannot be opened. -/
structure CacheError where
  path : String
  detail : String
  deriving DecidableEq, Repr

def CacheError.message (e : CacheError) : String :=
  "failed to open compile cache `" ++ e.path ++ "`: " ++ e.detail

/-- A question that got no answer. -/
inductive ServiceError where
  | config (e : SettingError)
  | cache (e : CacheError)
  | compilation (e : CompileError)
  | execution (e : ExecutionError)
  /-- A plan that was made here cannot be expressed as a statement. -/
  | internal (detail : String)
  deriving DecidableEq, Repr

namespace ServiceError

/-- A failure to run a plan. A plan that no statement can express is never the asker's fault. -/
def ofExecution : ExecutionError → ServiceError
  | .unsupported e => internal e.message
  | e => execution e

def message : ServiceError → String
  | config e => "configuration error: " ++ e.message
  | cache e => "compile cache unavailable: " ++ e.message
  | compilation e => e.message
  | execution e => e.message
  | internal detail => "internal error: " ++ detail

/-- What the person who asked is told. -/
def userMessage : ServiceError → String
  | compilation e => e.explain
  | execution (.indexNotFound path) =>
    "The bibliographic index was not found at " ++ path ++
      ". Set BIBQUERY_INDEX_PATH to the index file."
  | execution e => "The index query failed: " ++ e.message
  | config e => "Configuration problem: " ++ e.message
  | cache e => "The compile cache could not be used: " ++ e.message
  | internal _ => "Something went wrong on our side while running this query. It has been logged."

end ServiceError
end Catalogue
