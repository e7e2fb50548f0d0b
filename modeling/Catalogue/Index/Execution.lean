import Catalogue.Index.Evidence
import Catalogue.Index.Ranking
import Catalogue.Index.Run

/-! Running a plan. A plan that asks for a subject and finds nothing is given to a
retry hook, once, together with the subject headings that the index has; if the
hook's plan can be run, its results count in place of the empty ones, and in any
other case the empty ones stay. -/
namespace Catalogue

open Model (SubjectHint)

/-- Why a plan could not be run. -/
inductive ExecutionError where
  | indexNotFound (path : String)
  | cannotOpen (path detail : String)
  | unsupported (e : Index.Unsupported)
  | query (sql parameters detail : String)
  | facets (detail : String)
  deriving DecidableEq, Repr

def ExecutionError.message : ExecutionError → String
  | indexNotFound path => "index not found at `" ++ path ++ "`"
  | cannotOpen path detail => "failed to open index `" ++ path ++ "`: " ++ detail
  | unsupported e => e.message
  | query sql parameters detail =>
    "index query failed: " ++ detail ++ " (sql: " ++ sql ++ "; params: " ++ parameters ++ ")"
  | facets detail => "facet aggregation failed: " ++ detail

/-- A record that a plan found, and why. -/
structure Candidate where
  recordId : String
  rationale : String
  /-- One for each filter of the plan, in their order. -/
  evidence : List Evidence

def Candidate.toJson (c : Candidate) : Json :=
  .obj [("record_id", .str c.recordId), ("match_rationale", .str c.rationale),
    ("evidence", .arr (c.evidence.map Evidence.toJson))]

/-- What was run, and what it found. -/
structure Outcome where
  plan : Plan
  statement : Index.Statement
  candidates : List Candidate
  retried : Bool

namespace Outcome

/-- The keys of the records that were found. -/
def recordIds (o : Outcome) : List String := o.candidates.map (·.recordId)

end Outcome

/-- Gives another plan for one that found nothing. -/
abbrev RetryHook (σ : Type) := Plan → List SubjectHint → StateM σ (Except CompileError Plan)

namespace Index

/-- The candidate that a match is for a plan. -/
def Match.candidate (p : Plan) (m : Match) : Candidate :=
  let row := m.resultRow
  { recordId := ((row.get? "record_id").bind Json.str?).getD ""
    rationale := Catalogue.rationale p.filters
    evidence := p.filters.map fun f => Evidence.of f row }

/-- Puts a candidate behind those whose keys do not come after its key. -/
def insertCandidate (c : Candidate) : List Candidate → List Candidate
  | [] => [c]
  | d :: rest => if c.recordId < d.recordId then c :: d :: rest else d :: insertCandidate c rest

/-- Candidates in the order of their keys. -/
def sortCandidates (cs : List Candidate) : List Candidate :=
  cs.foldl (fun done c => insertCandidate c done) []

/-- The outcome of a plan whose statement gave some matches. -/
def outcome (p : Plan) (s : Statement) (ms : List Match) (retried : Bool) : Outcome :=
  ⟨p, s, sortCandidates (ms.map (Match.candidate p)), retried⟩

/-- Runs a statement. -/
def find (ix : Index) (s : Statement) : Except ExecutionError (List Match) :=
  (s.run ix).mapError fun e => .query s.sql s.parametersText e.message

/-- Runs a plan as it is. -/
def executeOnce (ix : Index) (p : Plan) : Except ExecutionError (Statement × List Match) := do
  let s ← (Statement.ofPlan p).mapError .unsupported
  return (s, ← ix.find s)

/-- The outcome of the plan that a hook gives for one that found nothing. -/
def retryOnce {σ : Type} (ix : Index) (hook : RetryHook σ) (hintLimit : Nat) (p : Plan) :
    StateM σ (Option Outcome) := do
  match ix.subjectHints? hintLimit with
  | none => return none
  | some hints =>
    match ← hook p hints with
    | .error _ => return none
    | .ok again =>
      match ix.executeOnce again with
      | .error _ => return none
      | .ok (s, ms) => return some (outcome again s ms true)

/-- Runs a plan. At least one subject heading is looked up for a retry. -/
def execute {σ : Type} (ix : Index) (hook : Option (RetryHook σ)) (hintLimit : Nat) (p : Plan) :
    StateM σ (Except ExecutionError Outcome) := do
  match ix.executeOnce p with
  | .error e => return .error e
  | .ok (s, ms) =>
    let plain := outcome p s ms false
    match hook with
    | none => return .ok plain
    | some hook =>
      if ms.isEmpty && p.qualifiesForRetry then
        return .ok ((← retryOnce ix hook (max hintLimit 1) p).getD plain)
      else return .ok plain

end Index
end Catalogue
