import Catalogue.Index.FullText.Tokens
import Catalogue.Index.Like
import Catalogue.Index.Table
import Catalogue.Plan.Basic
import Catalogue.Text.MatchKey

/-! Plans as statements on the index. Field and operator of a filter decide which
table is joined, which condition is asked of its rows and how the filter's value
is normalized, in the way in which the index was built. Values are bound to
parameters; a statement's text (`Statement.sql`) is made of conditions that only
know the names of their parameters. -/
namespace Catalogue

open Number Text

namespace Index

/-! ### Parameters -/

/-- A value that is bound to a name. -/
inductive Parameter where
  | int (n : Int)
  | text (s : String)
  deriving DecidableEq, Repr

namespace Parameter

/-- The parameter as it is shown to people. -/
def display : Parameter → String
  | int n => String.ofList (intText n)
  | text s => "'" ++ s ++ "'"

def toJson : Parameter → Json
  | int n => .int n
  | text s => .str s

def cell : Parameter → Cell
  | int n => .int n
  | text s => .text s

end Parameter

/-- The name of the parameter of a filter. -/
def parameterName (filter : Nat) : String := ":f" ++ toString filter

/-- The name of one of several parameters of a filter. -/
def memberName (filter member : Nat) : String := parameterName filter ++ "_" ++ toString member

/-- The name of the parameter that limits the number of results. -/
def limitName : String := ":limit"

/-! ### Targets -/

/-- A text column, compared as it is or with its letters in lower case. -/
structure ColumnText where
  table : Table
  column : String
  folded : Bool
  deriving DecidableEq, Repr

/-- How a column is named in a statement. -/
def ColumnText.sql (c : ColumnText) : String :=
  let name := c.table.name ++ "." ++ c.column
  if c.folded then "LOWER(" ++ name ++ ")" else name

/-- How texts are normalized before they are compared with a column. -/
inductive Normalization where
  | matchKey | foldedCode
  deriving DecidableEq, Repr

def Normalization.apply : Normalization → String → String
  | matchKey => Text.matchKey
  | foldedCode => Text.foldedCode

/-- Where the texts of a field are looked for. -/
structure Target where
  table : Table
  /-- One or more columns, any of which may match. -/
  columns : List String
  normalization : Normalization
  deriving DecidableEq, Repr

namespace Target

/-- The columns in the form in which they are compared: match keys as they are, others in lower case. -/
def columnTexts (t : Target) : List ColumnText :=
  t.columns.map fun c => ⟨t.table, c, t.normalization == .foldedCode⟩

end Target
end Index

open Index

/-- Where the texts of a field are looked for; years are no texts. -/
def Field.target? : Field → Option Target
  | .publisher => some ⟨.imprints, ["publisher_norm"], .matchKey⟩
  | .place => some ⟨.imprints, ["place_norm"], .matchKey⟩
  | .country => some ⟨.imprints, ["country_name", "country_code"], .foldedCode⟩
  | .language => some ⟨.languages, ["code"], .foldedCode⟩
  | .title => some ⟨.titles, ["value"], .foldedCode⟩
  | .subject => some ⟨.subjects, ["value"], .foldedCode⟩
  | .agent => some ⟨.agents, ["agent_raw"], .foldedCode⟩
  | .agentNorm => some ⟨.agents, ["agent_norm"], .matchKey⟩
  | .agentRole => some ⟨.agents, ["role_norm"], .foldedCode⟩
  | .agentType => some ⟨.agents, ["agent_type"], .foldedCode⟩
  | .year => none

namespace Index

/-! ### Conditions -/

/-- A test of one row. Parameters are given by their names. -/
inductive Test where
  /-- The row's years have one in common with the years from `first` to `last`. -/
  | overlaps (first last : String)
  /-- One of the columns equals one of the parameters. -/
  | equals (columns : List ColumnText) (parameters : List String)
  /-- One of the columns matches a pattern. -/
  | like (columns : List ColumnText) (pattern : String)
  /-- The full-text index finds the row. -/
  | found (search : String)
  deriving DecidableEq, Repr

/-- What one filter asks of the rows of a table. -/
structure Condition where
  table : Table
  test : Test
  negate : Bool
  deriving DecidableEq, Repr

/-- A template for each of one or more columns, any of which may hold. -/
def anyColumn (columns : List ColumnText) (template : String → String) : String :=
  match columns with
  | [c] => template c.sql
  | _ => "(" ++ " OR ".intercalate (columns.map fun c => template c.sql) ++ ")"

/-- A test of the rows of a table, as a statement spells it. -/
def Test.sql (t : Table) : Test → String
  | .overlaps first last =>
    t.name ++ ".date_end >= " ++ first ++ " AND " ++ t.name ++ ".date_start <= " ++ last
  | .equals columns parameters =>
    " OR ".intercalate (parameters.map fun p => anyColumn columns fun c => c ++ " = " ++ p)
  | .like columns pattern => anyColumn columns fun c => c ++ " LIKE " ++ pattern ++ " ESCAPE '\\'"
  | .found search =>
    t.name ++ ".id IN (SELECT rowid FROM " ++ t.fullTextName ++ " WHERE " ++ t.fullTextName ++
      " MATCH " ++ search ++ ")"

/-- A condition as a statement spells it. -/
def Condition.sql (c : Condition) : String :=
  (if c.negate then "NOT (" else "(") ++ c.test.sql c.table ++ ")"

/-! ### Filters as conditions -/

/-- A condition and the parameters that belong to it. -/
structure BoundCondition where
  condition : Condition
  parameters : List (String × Parameter)
  deriving DecidableEq, Repr

/-- A filter that no statement can express: its position, field and operator. -/
structure Unsupported where
  position : Nat
  field : Field
  op : Operator
  deriving DecidableEq, Repr

def Unsupported.message (e : Unsupported) : String :=
  "filter #" ++ toString e.position ++ ": `" ++ e.field.name ++ " " ++ e.op.name ++
    "` has no SQL translation"

/-- The condition of a filter on years, if there is one. -/
def yearCondition? (i : Nat) (f : Filter) : Option BoundCondition :=
  match f.op, f.value with
  | .range, .range first last =>
    let (a, b) := (memberName i 0, memberName i 1)
    some ⟨⟨.imprints, .overlaps a b, f.negate⟩, [(a, .int first), (b, .int last)]⟩
  | .equals, .text s =>
    (parseInt64? (trim s)).map fun year =>
      let p := parameterName i
      ⟨⟨.imprints, .overlaps p p, f.negate⟩, [(p, .int year)]⟩
  | _, _ => none

/-- The condition of a filter on texts, if there is one. -/
def textCondition? (i : Nat) (t : Target) (f : Filter) : Option BoundCondition :=
  let columns := t.columnTexts
  let bound (test : Test) (ps : List (String × Parameter)) : Option BoundCondition :=
    some ⟨⟨t.table, test, f.negate⟩, ps⟩
  match f.op, f.value with
  | .equals, .text s =>
    let p := parameterName i
    bound (.equals columns [p]) [(p, .text (t.normalization.apply s))]
  | .contains, .text s =>
    let p := parameterName i
    let wanted := t.normalization.apply s
    if t.table.hasFullText then bound (.found p) [(p, .text (FullText.quoteWords wanted))]
    else bound (.like columns p) [(p, .text (Like.containing wanted))]
  | .oneOf, .set values =>
    let ps := values.zipIdx.map fun v => (memberName i v.2, Parameter.text (t.normalization.apply v.1))
    bound (.equals columns (ps.map (·.1))) ps
  | _, _ => none

/-- The condition of the filter at position `i`, if there is one. -/
def condition? (i : Nat) (f : Filter) : Option BoundCondition :=
  match f.field.target? with
  | none => yearCondition? i f
  | some t => textCondition? i t f

/-- The conditions of filters, of which the first has position `i`. -/
def conditionsFrom (i : Nat) : List Filter → Except Unsupported (List BoundCondition)
  | [] => .ok []
  | f :: rest =>
    match condition? i f with
    | none => .error ⟨i, f.field, f.op⟩
    | some c => (conditionsFrom (i + 1) rest).map (c :: ·)

/-! ### Statements -/

/-- A statement that finds the records that satisfy all conditions. -/
structure Statement where
  conditions : List Condition
  /-- Whether the number of results is limited, by the parameter of that name. -/
  limited : Bool
  parameters : Entries Parameter
  deriving DecidableEq, Repr

namespace Statement

/-- The greatest limit that can be bound. -/
def greatestLimit : Nat := int64.high.toNat

/-- The statement of a plan. Soft filters are not enforced. -/
def ofPlan (p : Plan) : Except Unsupported Statement :=
  (conditionsFrom 0 p.filters).map fun bound =>
    let limit := Plan.positive p.limit
    let limits := limit.toList.map fun (n : Nat) => (limitName, Parameter.int (min n greatestLimit : Nat))
    ⟨bound.map (·.condition), limit.isSome, Entries.sorted (bound.flatMap (·.parameters) ++ limits)⟩

/-- The tables that are joined, each once. -/
def tables (s : Statement) : List Table :=
  Table.all.filter fun t => s.conditions.any (·.table == t)

/-- The names of the result's columns. -/
def resultColumns (s : Statement) : List String := "record_id" :: s.tables.flatMap Table.resultNames

/-- The parameters as they are shown to people. -/
def parametersText (s : Statement) : String :=
  ", ".intercalate (s.parameters.map fun p => p.1 ++ "=" ++ p.2.display)

/-! ### Text -/

/-- The row numbers by which the rows of a record are ranked. -/
def rankOrder (tables : List Table) : String :=
  if tables.isEmpty then "records.id" else ", ".intercalate (tables.map fun t => t.name ++ ".id")

/-- What is selected for every combination of joined rows. -/
def innerColumns (tables : List Table) : List String :=
  ["records.mms_id AS record_id"] ++
    tables.flatMap (fun t => t.evidenceColumns.map fun c => t.name ++ "." ++ c ++ " AS " ++ t.resultName c) ++
    ["ROW_NUMBER() OVER (PARTITION BY records.id ORDER BY " ++ rankOrder tables ++ ") AS match_rank"]

/-- How a table is joined. -/
def joinText (t : Table) : String :=
  "    JOIN " ++ t.name ++ " ON " ++ t.name ++ ".record_id = records.id\n"

/-- How conditions are spelled, all of which must hold. -/
def whereText (conditions : List Condition) : String :=
  if conditions.isEmpty then ""
  else "    WHERE " ++ "\n      AND ".intercalate (conditions.map Condition.sql) ++ "\n"

/-- The text of a statement. -/
def sql (s : Statement) : String :=
  "WITH matched AS (\n" ++
    "    SELECT " ++ ",\n           ".intercalate (innerColumns s.tables) ++ "\n" ++
    "    FROM records\n" ++ String.join (s.tables.map joinText) ++ whereText s.conditions ++ ")\n" ++
    "SELECT " ++ ", ".intercalate s.resultColumns ++ "\n" ++
    "FROM matched\nWHERE match_rank = 1\nORDER BY record_id ASC" ++
    (if s.limited then "\nLIMIT " ++ limitName else "")

end Statement
end Index
end Catalogue
