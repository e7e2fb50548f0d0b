import Catalogue.Index.Cell

/-! The tables of the index. A record has a key and any number of rows in each of
five tables; titles and subjects have a full-text index besides. Columns have an
affinity, by which a cell is converted when it is stored. -/
namespace Catalogue.Index

open Number (Binary64 int64)

/-! ### Columns -/

/-- What kind of cell a column prefers. -/
inductive Affinity where
  | text | integer | real
  deriving DecidableEq, Repr

namespace Affinity

/-- An integer for a number that is one and fits 64 bits. -/
def preferInteger : Cell → Cell
  | .real x =>
    match x.integer? with
    | some n => if int64.low < n && n < int64.high then .int n else .real x
    | none => .real x
  | c => c

/-- A number for a text that is one. -/
def preferNumber : Cell → Cell
  | .text s => ((Number.wholeNumber? s.toList).map Cell.ofNumeric).getD (.text s)
  | c => c

/-- A cell as a column of the affinity stores it. -/
def store : Affinity → Cell → Cell
  | text, .blob bytes => .blob bytes
  | text, c => c.asText
  | integer, c => preferInteger (preferNumber c)
  | real, c =>
    match preferInteger (preferNumber c) with
    | .int n => .real (Binary64.ofInt n)
    | c => c

end Affinity

/-- A column of a table. -/
structure Column where
  name : String
  affinity : Affinity
  /-- Whether every row has a cell there. -/
  required : Bool
  /-- The cell of a row that is stored without one. -/
  default : Cell

namespace Column

def text (name : String) : Column := ⟨name, .text, false, .null⟩
def integer (name : String) : Column := ⟨name, .integer, false, .null⟩
def real (name : String) : Column := ⟨name, .real, false, .null⟩

/-- The column, with a cell in every row. -/
def always (c : Column) : Column := { c with required := true }

/-- The column, with a cell in every row, which is `cell` unless another is given. -/
def defaulting (c : Column) (cell : Cell) : Column := { c with required := true, default := cell }

end Column

/-! ### Tables -/

/-- What a filter can look at, in the order in which tables are joined. -/
inductive Table where
  | imprints | languages | titles | subjects | agents
  deriving DecidableEq, Repr, Inhabited

namespace Table

def all : List Table := [imprints, languages, titles, subjects, agents]

def name : Table → String
  | imprints => "imprints"
  | languages => "languages"
  | titles => "titles"
  | subjects => "subjects"
  | agents => "agents"

/-- The columns besides the row's number. -/
def columns : Table → List Column
  | imprints => [
      (Column.integer "record_id").always, (Column.integer "occurrence").defaulting (.int 0),
      .text "source_tags", .text "date_raw", .integer "date_start", .integer "date_end",
      .real "date_confidence", .text "date_method", .text "place_raw", .text "place_norm",
      .real "place_confidence", .text "place_method", .text "publisher_raw", .text "publisher_norm",
      .real "publisher_confidence", .text "publisher_method", .text "country_code",
      .text "country_name"]
  | languages => [
      (Column.integer "record_id").always, (Column.text "code").always, .text "source"]
  | titles => [
      (Column.integer "record_id").always, (Column.text "title_type").defaulting (.text "main"),
      (Column.text "value").always, .text "source"]
  | subjects => [
      (Column.integer "record_id").always, (Column.text "value").always, .text "source_tag",
      .text "scheme", .text "source"]
  | agents => [
      (Column.integer "record_id").always, (Column.integer "agent_index").defaulting (.int 0),
      (Column.text "agent_raw").always, .text "agent_type", .text "role_raw", .text "agent_norm",
      .real "agent_confidence", .text "agent_method", .text "role_norm", .real "role_confidence",
      .text "role_method", .text "provenance_json"]

/-- The columns that evidence is drawn from. -/
def evidenceColumns : Table → List String
  | imprints => [
      "id", "occurrence", "source_tags", "date_start", "date_end", "date_confidence", "place_norm",
      "place_confidence", "publisher_norm", "publisher_confidence", "country_code", "country_name"]
  | languages => ["id", "code", "source"]
  | titles => ["id", "value", "source"]
  | subjects => ["id", "value", "source"]
  | agents => [
      "id", "agent_raw", "agent_type", "agent_norm", "agent_confidence", "role_norm",
      "role_confidence", "provenance_json"]

/-- The name of a column among the columns of several tables. -/
def resultName (t : Table) (column : String) : String := t.name ++ "_" ++ column

/-- The names of the evidence columns. -/
def resultNames (t : Table) : List String := t.evidenceColumns.map t.resultName

/-- Whether the values of the table are in a full-text index. -/
def hasFullText : Table → Bool
  | titles | subjects => true
  | imprints | languages | agents => false

/-- The name of the table's full-text index. -/
def fullTextName (t : Table) : String := t.name ++ "_fts"

end Table

/-! ### Everything with a name -/

/-- What a statement can name. -/
inductive Relation where
  | records
  | table (t : Table)
  | fullText (t : Table)
  deriving DecidableEq, Repr

namespace Relation

def name : Relation → String
  | records => "records"
  | table t => t.name
  | fullText t => t.fullTextName

def all : List Relation :=
  [records] ++ Table.all.map table ++ (Table.all.filter Table.hasFullText).map fullText

/-- The relation of a name. -/
def ofName? (s : String) : Option Relation := all.find? (·.name == s)

end Relation
end Catalogue.Index
