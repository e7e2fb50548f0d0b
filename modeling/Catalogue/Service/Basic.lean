import Catalogue.Model.Exchange
import Catalogue.Plan.Warning
import Catalogue.Question.Compile
import Catalogue.Service.Error
import Catalogue.Service.Settings

/-! Answering questions: a question is compiled, the plan is checked for warnings,
the index is opened, the plan is run with its retry, and facets are counted. -/
namespace Catalogue

/-- Compiles questions and runs plans. What it does to the world happens in a state. -/
structure Service (σ : Type) where
  backend : String
  compile : String → Option Nat → StateM σ (Except CompileError Plan)
  retry : Option (RetryHook σ)
  /-- How many values of a facet are counted; at least one. -/
  facetTop : Nat
  /-- How many subject headings a retry is given; at least one. -/
  subjectHints : Nat

/-- What a question was answered with. -/
structure QueryResult where
  /-- The plan that was run, its statement and what it found. -/
  outcome : Outcome
  warnings : List Warning
  facets : Option Index.FacetCounts

namespace Service

variable {σ : Type}

/-- The service that knows phrases. It never retries. -/
def heuristic : Service σ where
  backend := Question.backend
  compile := fun text limit => return .ok (Question.compile text limit)
  retry := none
  facetTop := Settings.default.facetTop
  subjectHints := Settings.default.subjectHints

/-- The service that asks a language model, also for retries. -/
def ofModel (c : Model.Compiler σ) (w : Cache.Writing) : Service (Model.Session σ) where
  backend := Model.backend
  compile := c.compile w
  retry := some c.retry
  facetTop := Settings.default.facetTop
  subjectHints := Settings.default.subjectHints

/-- The service with other counts. -/
def withCounts (s : Service σ) (facetTop subjectHints : Nat) : Service σ :=
  { s with facetTop := max facetTop 1, subjectHints := max subjectHints 1 }

/-- The service that settings describe, and the cache it starts with. A language model takes its
configuration from the environment; its cache is opened by `openCache`. -/
def configure {m : Type → Type} [Monad m] (settings : Settings) (env : Environment)
    (transport : Web.Transport σ) (w : Cache.Writing)
    (openCache : String → m (Except CacheError Cache)) :
    m (Except ServiceError (Service (Model.Session σ) × Option Cache)) := do
  let counted (s : Service (Model.Session σ)) := s.withCounts settings.facetTop settings.subjectHints
  match settings.backend with
  | .heuristic => return .ok (counted heuristic, none)
  | .llm =>
    match Model.Configuration.ofEnvironment env with
    | .error e => return .error (.config e)
    | .ok c =>
      let service := counted (ofModel ⟨Model.provider c transport, c.repair⟩ w)
      match settings.cachePath with
      | none => return .ok (service, none)
      | some path =>
        match ← openCache path with
        | .error e => return .error (.cache e)
        | .ok cache => return .ok (service, some cache)

/-! ### Running -/

/-- The plan of a question. -/
def plan (s : Service σ) (text : String) (limit : Option Nat) : StateM σ (Except ServiceError Plan) := do
  return (← s.compile text limit).mapError .compilation

/-- The warnings that go with an outcome: those that there were before the run, or, if the plan was
retried, those about the plan that took its place. -/
def warnings (before : List Warning) (o : Outcome) : List Warning :=
  (if o.retried then Warning.ofPlan o.plan else before) ++
    if o.candidates.isEmpty then [Warning.noResults] else []

/-- The facets of an outcome, if they are wanted. -/
def facets (s : Service σ) (ix : Index) (o : Outcome) (wanted : Bool) :
    Except ServiceError (Option Index.FacetCounts) :=
  if wanted then
    match ix.facets? o.recordIds s.facetTop with
    | some counts => .ok (some counts)
    | none => .error (.execution (.facets "a value cannot be read"))
  else .ok none

/-- Runs a plan on an index. -/
def run (s : Service σ) (ix : Index) (p : Plan) (facets : Bool) :
    StateM σ (Except ServiceError QueryResult) := do
  match ← ix.execute s.retry s.subjectHints p with
  | .error e => return .error (.ofExecution e)
  | .ok o => return (s.facets ix o facets).map fun counts => ⟨o, warnings (Warning.ofPlan p) o, counts⟩

/-- Runs a plan, once the index has been opened. -/
def runOpened (s : Service σ) (opened : Except ExecutionError Index) (p : Plan) (facets : Bool) :
    StateM σ (Except ServiceError QueryResult) :=
  match opened with
  | .error e => return .error (.ofExecution e)
  | .ok ix => s.run ix p facets

/-- Answers a question. -/
def query (s : Service σ) (opened : Except ExecutionError Index) (text : String)
    (limit : Option Nat) (facets : Bool) : StateM σ (Except ServiceError QueryResult) := do
  match ← s.plan text limit with
  | .error e => return .error e
  | .ok p => s.runOpened opened p facets

end Service
end Catalogue
