import Catalogue.Index.Size
import Catalogue.Index.Visit

/-! Running a statement on an index. It fails if the index has lost what it names, if
it is too large, or if it comes to a condition that cannot be tested; otherwise it
gives its results. -/
namespace Catalogue.Index.Statement

/-- Why a statement cannot be run. -/
inductive Failure where
  | lost (r : Relation)
  | tooDeep
  | tooManyParameters
  | flawed (f : Flaw)
  deriving DecidableEq, Repr

def Failure.message : Failure → String
  | lost r => "no such table: " ++ r.name
  | tooDeep => "Expression tree is too large (maximum depth 1000)"
  | tooManyParameters => "too many SQL variables"
  | flawed .unreadableSearch => "unterminated string"
  | flawed .patternTooLong => "LIKE or GLOB pattern too complex"

/-- What the statement names. -/
def relations (s : Statement) : List Relation :=
  [.records] ++ s.tables.map .table ++
    (s.conditions.filter Condition.isSearch).map fun c => .fullText c.table

/-- Why the statement fails on an index, if it does. -/
def failure? (s : Statement) (ix : Index) : Option Failure :=
  match s.relations.find? fun r => !ix.has r with
  | some r => some (.lost r)
  | none =>
    if greatestDepth < s.depth then some .tooDeep
    else if mostParameters < s.parameters.length then some .tooManyParameters
    else (s.flaw? ix).map .flawed

/-- Runs the statement. -/
def run (s : Statement) (ix : Index) : Except Failure (List Match) :=
  match s.failure? ix with
  | some f => .error f
  | none => .ok (s.results ix)

end Catalogue.Index.Statement
