import Catalogue.Service.Basic
import Catalogue.Terminal.Style

/-! Plans, statements and results as lines on a terminal, and results as JSON. -/
namespace Catalogue.Terminal

open Number

/-- How lines are written. -/
structure Theme where
  colors : Bool

namespace Theme

variable (t : Theme)

def paint (style : Style) (text : String) : String := style.paint t.colors text

/-! ### Plans and statements -/

/-- A hard filter, with its confidence. -/
def filterLine (f : Filter) : String :=
  "  " ++ t.paint .cyan "•" ++ " " ++ f.display ++ match f.confidence with
    | some x => " " ++ t.paint .dimmed ("(" ++ String.ofList x.twoPlaces ++ ")")
    | none => ""

def softFilterLine (f : Filter) : String :=
  "  " ++ t.paint .dimmed "~" ++ " " ++ f.display ++ " " ++ t.paint .dimmed "(soft)"

/-- A plan: its filters and its limit. -/
def planLines (p : Plan) : List String :=
  (if p.filters.isEmpty then ["  " ++ t.paint .dimmed "(no filters)"] else []) ++
    p.filters.map t.filterLine ++ p.softFilters.map t.softFilterLine ++
    p.limit.toList.map fun n => "  " ++ t.paint .cyan "•" ++ " limit " ++ toString n

/-- A statement and its parameters. -/
def statementLines (s : Index.Statement) : List String :=
  s.sql.splitOn "\n" ++
    if s.parameters.isEmpty then [] else [t.paint .dimmed "params:" ++ " " ++ s.parametersText]

/-! ### Results -/

/-- A value of a result: a dash for nothing, texts in apostrophes, others as JSON. -/
def valueText : Json → String
  | .null => "—"
  | .str s => "'" ++ s ++ "'"
  | v => v.compact

def warningLine (w : Warning) : String :=
  t.paint .boldYellow "warning:" ++ " [" ++ w.code.name ++ "] " ++ w.message

def evidenceLine (e : Evidence) : String :=
  "      " ++ e.field ++ " = " ++ valueText e.value ++ "  " ++ t.paint .dimmed e.operator ++ " " ++
    valueText e.matchedAgainst ++ "  " ++ t.paint .dimmed e.source ++
    t.paint .dimmed (match e.confidence with
      | some x => " " ++ String.ofList x.twoPlaces
      | none => "")

/-- A candidate after an empty line. -/
def candidateLines (c : Candidate) : List String :=
  ["", "  " ++ t.paint .bold c.recordId ++ "  " ++ t.paint .dimmed c.rationale] ++
    c.evidence.map t.evidenceLine

/-- A facet, unless it has no values. -/
def facetLines (name : String) (buckets : List Index.Bucket) : List String :=
  if buckets.isEmpty then []
  else ["  " ++ t.paint .bold (padRight 10 name) ++ " " ++
    ", ".intercalate (buckets.map fun b => b.value ++ " (" ++ toString b.count ++ ")")]

/-- All facets after an empty line. -/
def facetsLines (counts : Index.FacetCounts) : List String :=
  ["", t.paint .bold "facets"] ++ Index.Facet.all.flatMap fun f => t.facetLines f.name (counts.get f)

/-- The start of a plan's hash. -/
def shortHash (hash : String) : String := String.ofList (hash.toList.take 12)

/-- How many results there are, for which question, from which compiler and in what time. -/
def headLine (r : QueryResult) (backend : String) (milliseconds : Nat) : String :=
  let count := r.outcome.candidates.length
  t.paint .boldGreen (toString count) ++ (if count = 1 then " result" else " results") ++ " for \"" ++
    r.outcome.plan.queryText ++ "\" " ++
    t.paint .dimmed ("(" ++ backend ++ ", " ++ toString milliseconds ++ " ms, plan " ++
      shortHash r.outcome.plan.hash ++ ")")

/-- A result. -/
def resultLines (r : QueryResult) (backend : String) (milliseconds : Nat) (showStatement : Bool) :
    List String :=
  [t.headLine r backend milliseconds] ++
    (if r.outcome.retried then
      [t.paint .boldCyan "retried:" ++ " subject remapped against the index vocabulary"] else []) ++
    t.planLines r.outcome.plan ++ r.warnings.map t.warningLine ++
    (if showStatement then t.statementLines r.outcome.statement else []) ++
    r.outcome.candidates.flatMap t.candidateLines ++
    (r.facets.map t.facetsLines).getD []

/-- The head of a plan that is shown without being run. -/
def planHead (backend : String) : String :=
  t.paint .boldGreen "plan" ++ " " ++ t.paint .dimmed ("(" ++ backend ++ ")")

end Theme

/-! ### Results as JSON -/

/-- A statement and its parameters as JSON. -/
def statementJson (s : Index.Statement) : Json :=
  .obj [("sql", .str s.sql), ("params", .obj (s.parameters.map fun p => (p.1, p.2.toJson)))]

/-- A result as JSON. `generatedAt` is when it was found. -/
def resultJson (r : QueryResult) (generatedAt : String) (milliseconds : Nat) : Json :=
  let o := r.outcome
  .obj ([("plan", o.plan.toJson), ("sql", statementJson o.statement),
    ("candidates", .obj [("query_text", .str o.plan.queryText), ("plan_hash", .str o.plan.hash),
      ("sql", .str o.statement.sql), ("generated_at", .str generatedAt),
      ("candidates", .arr (o.candidates.map Candidate.toJson)),
      ("total_count", .nat o.candidates.length)]),
    ("warnings", .arr (r.warnings.map Warning.toJson))] ++
    (r.facets.toList.map fun counts => ("facets", counts.toJson)) ++
    [("retried", .bool o.retried), ("execution_ms", .nat milliseconds)])

end Catalogue.Terminal
