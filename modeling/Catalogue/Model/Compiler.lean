import Catalogue.Cache.Basic
import Catalogue.Model.Answer
import Catalogue.Model.Prompt

/-! The compiler that asks a language model. A text that has a cached plan costs
no completion; any other costs one, or two if the first answer holds no object
and a repair is asked for. A fresh plan is cached without its limit, and a cache
that cannot be written does no harm. A retry with subject hints leaves the cache
alone. -/
namespace Catalogue.Model

/-- One completion that is asked for. -/
structure Request where
  system : String
  prompt : String
  /-- The schema that the answer should satisfy. -/
  schema : Option Json

/-- Something that completes prompts, and the state in which it does so. -/
structure Provider (σ : Type) where
  name : String
  model : String
  complete : Request → StateM σ (Except CompileError String)

/-- A provider, and whether a repair may be asked for. -/
structure Compiler (σ : Type) where
  provider : Provider σ
  repair : Bool

/-- The state of a compiler's provider, and its cache if it has one. -/
structure Session (σ : Type) where
  provider : σ
  cache : Option Cache

namespace Compiler

variable {σ : Type}

/-- The answer to a prompt. -/
def ask (c : Compiler σ) (prompt : String) : StateM σ (Except CompileError String) :=
  c.provider.complete ⟨instructions, prompt, some Schema.answer⟩

/-- The object in the answer to a prompt, after at most one repair. -/
def askObject (c : Compiler σ) (prompt : String) : StateM σ (Except CompileError Json) := do
  match ← c.ask prompt with
  | .error e => return .error e
  | .ok answer =>
    match extractObject answer with
    | .ok object => return .ok object
    | .error problem =>
      if c.repair then
        match ← c.ask (repairPrompt prompt answer problem.message) with
        | .error e => return .error e
        | .ok repaired => return (extractObject repaired).mapError fun e => .invalidResponse e.message
      else return .error (.invalidResponse problem.message)

/-- The plan of a question, asked for by a prompt, without a limit. -/
def requestPlan (c : Compiler σ) (queryText prompt : String) : StateM σ (Except CompileError Plan) := do
  return (← c.askObject prompt).bind (planOf c.provider.model queryText)

/-- Runs on the provider's state alone. -/
def onProvider {α : Type} (x : StateM σ α) : StateM (Session σ) α := fun s =>
  let (a, provider) := x s.provider
  (a, { s with provider := provider })

/-- A plan that was found in the cache, for this caller. -/
def cachedPlan (e : CacheEntry) (limit : Option Nat) : Plan :=
  (e.plan.withLimit limit).withDebug Plan.Key.cacheHit (.bool true)

/-- The plan of a question. -/
def compile (c : Compiler σ) (w : Cache.Writing) (queryText : String) (limit : Option Nat) :
    StateM (Session σ) (Except CompileError Plan) := do
  match (← get).cache.bind (·.get? queryText) with
  | some e => return .ok (cachedPlan e limit)
  | none =>
    match ← onProvider (c.requestPlan queryText (questionPrompt queryText)) with
    | .error e => return .error e
    | .ok plan =>
      modify fun s => { s with
        cache := s.cache.map fun k => (k.put? w queryText plan c.provider.model).getD k }
      return .ok (plan.withLimit limit)

/-- Another plan for the question of one that found nothing, with the subjects that there are. -/
def retry (c : Compiler σ) (plan : Plan) (hints : List SubjectHint) :
    StateM (Session σ) (Except CompileError Plan) := do
  let again ← onProvider (c.requestPlan plan.queryText (subjectPrompt plan hints))
  return again.map fun p =>
    (((p.withLimit plan.limit).withDebug Plan.Key.retryAttempt (.bool true)).withDebug
      Plan.Key.retryHintCount (.nat hints.length)).withDebug Plan.Key.retryOf (.str plan.hash)

end Compiler
end Catalogue.Model
