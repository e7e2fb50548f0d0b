/-! Why a question could not be compiled into a plan, and what to do about it. -/
namespace Catalogue

/-- The service that runs the language model did not give a usable answer. -/
inductive CompileError where
  | missingCredentials (provider envVar detail : String)
  | rateLimitedOrTimeout (provider detail : String)
  | invalidResponse (detail : String)
  deriving DecidableEq, Repr, Inhabited

/-- Questions that are known to compile well. -/
def exampleQuestions : List String := [
  "books published by Aldus Manutius between 1495 and 1515",
  "books printed in Venice in the 16th century",
  "Hebrew books printed in Amsterdam from 1650 to 1700",
  "books about Kabbalah",
  "Latin books published in Paris"]

namespace CompileError

def message : CompileError → String
  | missingCredentials provider _ detail =>
    provider ++ ": credentials are missing or were rejected (" ++ detail ++ ")"
  | rateLimitedOrTimeout provider detail =>
    provider ++ ": request was rate limited or timed out (" ++ detail ++ ")"
  | invalidResponse detail => "model response could not be turned into a valid plan: " ++ detail

/-- What the operator should do. -/
def remediation : CompileError → String
  | missingCredentials _ envVar _ =>
    "set " ++ envVar ++
      " in the environment (or switch to the heuristic compiler with BIBQUERY_COMPILER=heuristic)"
  | rateLimitedOrTimeout _ _ =>
    "wait a moment and retry; raise BIBQUERY_LLM_TIMEOUT_SECS if the model is slow"
  | invalidResponse _ =>
    "rephrase the question with an explicit field (publisher, place, year, language, subject, title)"

/-- What the person who asked is told: what went wrong, what to do, and questions that work. -/
def explain (e : CompileError) : String :=
  "Could not understand the question: " ++ e.message ++ ".\nTo fix: " ++ e.remediation ++
    ".\nTry for example:\n" ++ String.join (exampleQuestions.map fun q => "  - " ++ q ++ "\n")

end CompileError
end Catalogue
