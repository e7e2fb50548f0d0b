import Catalogue.Index.Provenance
import Catalogue.Index.Selection
import Catalogue.Json.Decode
import Catalogue.Text.Occurrence

/-! Evidence: for each filter of a plan, what a result has where the filter looks.
A value that a result lacks is shown as null. -/
namespace Catalogue

open Json
open Number (Binary64)

/-- What a result has for one filter. -/
structure Evidence where
  /-- The column that was looked at. -/
  field : String
  value : Json
  operator : String
  /-- The filter's value. -/
  matchedAgainst : Json
  /-- The column, and where in the catalogue record its value comes from. -/
  source : String
  confidence : Option Binary64

namespace Index

/-! ### Result rows -/

/-- The values of a result under the names of its columns. -/
abbrev ResultRow := Entries Json

/-- A cell as a value; bytes and infinite numbers are not shown. -/
def Cell.toJson : Cell → Json
  | .null | .brokenText _ | .blob _ => .null
  | .int n => .int n
  | .real x => if x.isFinite then .float x else .null
  | .text s => .str s

/-- The evidence columns of a joined row. -/
def Table.values (t : Table) (r : Row) : List (String × Json) :=
  t.evidenceColumns.map fun c => (t.resultName c, (r.cell c).toJson)

/-- A match as a result row. -/
def Match.resultRow (m : Match) : ResultRow :=
  ("record_id", m.record.key.toJson) :: m.rows.flatMap fun j => j.1.values j.2

/-- The value of a table's column in a result. -/
def ResultRow.value (row : ResultRow) (t : Table) (column : String) : Json :=
  (row.get? (t.resultName column)).getD .null

end Index

open Index

namespace Evidence

/-! ### Where a filter looks -/

/-- A column whose value is shown, and the column that holds the confidence in it. -/
structure Witness where
  table : Table
  column : String
  confidence : Option String
  deriving DecidableEq, Repr

/-- Where evidence for a field is found. -/
def witness : Field → Witness
  | .publisher => ⟨.imprints, "publisher_norm", some "publisher_confidence"⟩
  | .place => ⟨.imprints, "place_norm", some "place_confidence"⟩
  | .country => ⟨.imprints, "country_name", none⟩
  | .year => ⟨.imprints, "date_start", some "date_confidence"⟩
  | .language => ⟨.languages, "code", none⟩
  | .title => ⟨.titles, "value", none⟩
  | .subject => ⟨.subjects, "value", none⟩
  | .agent => ⟨.agents, "agent_raw", some "agent_confidence"⟩
  | .agentNorm => ⟨.agents, "agent_norm", some "agent_confidence"⟩
  | .agentRole => ⟨.agents, "role_norm", some "role_confidence"⟩
  | .agentType => ⟨.agents, "agent_type", none⟩

/-- Whether a value satisfies a filter on texts, compared as codes are. -/
def satisfies (f : Filter) (value : Json) : Bool :=
  match value.str?.map Text.foldedCode with
  | none => false
  | some v =>
    match f.value with
    | .text s =>
      if f.op = .contains then Text.occursIn (Text.foldedCode s).toList v.toList else v == Text.foldedCode s
    | .set values => values.any fun s => v == Text.foldedCode s
    | .range _ _ => false

/-- The column of a country: its code if that satisfies the filter and its name does not. -/
def countryColumn (f : Filter) (row : ResultRow) : String :=
  if !satisfies f (row.value .imprints "country_name") &&
      satisfies f (row.value .imprints "country_code") then "country_code"
  else "country_name"

/-- Where evidence for a filter is found in a result. -/
def witnessIn (f : Filter) (row : ResultRow) : Witness :=
  let w := witness f.field
  if f.field = .country then { w with column := countryColumn f row } else w

/-! ### What is shown -/

/-- A filter's value next to a result's; a single year is shown as a range. -/
def filterValue (f : Filter) : Json :=
  match f.value with
  | .text s =>
    match f.field, Number.parseInt64? s with
    | .year, some n => .arr [.int n, .int n]
    | _, _ => .str s
  | .range first last => .arr [.int first, .int last]
  | .set values => .texts values

def operatorText (f : Filter) : String := if f.negate then "not " ++ f.op.name else f.op.name

/-- The value of a column that holds JSON; a text that is none is kept as it is. -/
def recorded : Json → Json
  | .str s =>
    match parse s with
    | .ok v => v
    | .error _ => .str s
  | v => v

/-- Where in the catalogue record the values of a table come from. -/
def provenance? (t : Table) (row : ResultRow) : Option String :=
  match t with
  | .imprints =>
    Provenance.render? (row.value t "occurrence").int64? (recorded (row.value t "source_tags"))
  | .languages | .titles | .subjects => Provenance.render? none (recorded (row.value t "source"))
  | .agents => Provenance.render? none (recorded (row.value t "provenance_json"))

/-- A column, and where its value comes from. -/
def sourceText (t : Table) (column : String) (row : ResultRow) : String :=
  match provenance? t row with
  | some p => t.name ++ "." ++ column ++ " (marc:" ++ p ++ ")"
  | none => t.name ++ "." ++ column

/-- The years of a result. -/
def years (row : ResultRow) : Json :=
  let first := row.value .imprints "date_start"
  let last := row.value .imprints "date_end"
  if first.isNull && last.isNull then .null else .arr [first, last]

/-- The evidence of a result for a filter. -/
def of (f : Filter) (row : ResultRow) : Evidence :=
  let w := witnessIn f row
  { field := if f.field = .year then "imprints.date_start..date_end" else w.table.name ++ "." ++ w.column
    value := if f.field = .year then years row else row.value w.table w.column
    operator := operatorText f
    matchedAgainst := filterValue f
    source := sourceText w.table w.column row
    confidence := (w.confidence.map (row.value w.table)).bind Json.float? }

def toJson (e : Evidence) : Json :=
  .obj [("field", .str e.field), ("value", e.value), ("operator", .str e.operator),
    ("matched_against", e.matchedAgainst), ("source", .str e.source),
    ("confidence", .ofFloat? e.confidence)]

end Evidence
end Catalogue
