import Catalogue.Index.Table
import Catalogue.Entries

/-! An index: records, and for each record rows in five tables. Rows have numbers
that identify them within their table. A row is stored by `add?`, which converts
cells by the affinity of their columns, fills in defaults, and refuses a row that
lacks a cell it must have or has a number or key that is taken. -/
namespace Catalogue.Index

/-- A row of a table. -/
structure Row where
  id : Int
  cells : Entries Cell
  deriving DecidableEq, Repr

/-- The cell of a row in a column. -/
def Row.cell (r : Row) (column : String) : Cell :=
  if column = "id" then .int r.id else (r.cells.get? column).getD .null

/-- A record: its number and the key by which the catalogue knows it. -/
structure Record where
  id : Int
  key : Cell
  deriving DecidableEq, Repr

end Index

/-- An index, rows and records in ascending order of their numbers. -/
structure Index where
  records : List Index.Record
  imprints : List Index.Row
  languages : List Index.Row
  titles : List Index.Row
  subjects : List Index.Row
  agents : List Index.Row
  /-- Relations that the index has lost. -/
  lost : List Index.Relation
  deriving DecidableEq, Repr

namespace Index

def empty : Index := ⟨[], [], [], [], [], [], []⟩

/-- The rows of a table. -/
def rows (ix : Index) : Table → List Row
  | .imprints => ix.imprints
  | .languages => ix.languages
  | .titles => ix.titles
  | .subjects => ix.subjects
  | .agents => ix.agents

/-- The index with other rows in a table. -/
def withRows (ix : Index) (t : Table) (rows : List Row) : Index :=
  match t with
  | .imprints => { ix with imprints := rows }
  | .languages => { ix with languages := rows }
  | .titles => { ix with titles := rows }
  | .subjects => { ix with subjects := rows }
  | .agents => { ix with agents := rows }

/-- Whether the index still has a relation. -/
def has (ix : Index) (r : Relation) : Bool := !ix.lost.contains r

/-- The index without a relation. The full-text index of a table stays. -/
def drop (ix : Index) (r : Relation) : Index := { ix with lost := r :: ix.lost }

/-! ### Numbers -/

/-- The number after the greatest of some. -/
def nextId (ids : List Int) : Int :=
  match ids with
  | [] => 1
  | n :: rest => rest.foldl max n + 1

/-- The number for a new row: the one that is asked for if it is an integer, or the next. -/
def idFor? (ids : List Int) (wanted : Cell) : Option Int :=
  match Affinity.integer.store wanted with
  | .null => some (nextId ids)
  | .int n => if ids.contains n then none else some n
  | _ => none

/-- Puts a value in the order of its number. -/
def insertById {α : Type} (id : α → Int) (a : α) : List α → List α
  | [] => [a]
  | b :: rest => if id a < id b then a :: b :: rest else b :: insertById id a rest

/-! ### Storing -/

/-- The cell that a column stores, given the cells of a new row. -/
def Column.cellFor? (c : Column) (given : Entries Cell) : Option (String × Cell) :=
  let cell := c.affinity.store ((given.get? c.name).getD c.default)
  if c.required && cell.isNull then none else some (c.name, cell)

/-- Stores a row in a table. -/
def add? (ix : Index) (t : Table) (given : Entries Cell) : Option Index := do
  if !ix.has (.table t) || (t.hasFullText && !ix.has (.fullText t)) then none
  if given.any fun e => e.1 != "id" && !t.columns.any (·.name == e.1) then none
  let id ← idFor? ((ix.rows t).map (·.id)) ((given.get? "id").getD .null)
  let cells ← t.columns.mapM (·.cellFor? given)
  return ix.withRows t (insertById (·.id) ⟨id, cells⟩ (ix.rows t))

/-- Stores a record, and gives its number. -/
def addRecord? (ix : Index) (given : Entries Cell) : Option (Int × Index) := do
  if !ix.has .records then none
  if given.any fun e => e.1 != "id" && e.1 != "mms_id" then none
  let id ← idFor? (ix.records.map (·.id)) ((given.get? "id").getD .null)
  let key := Affinity.text.store ((given.get? "mms_id").getD .null)
  if key.isNull || ix.records.any (·.key == key) then none
  return (id, { ix with records := insertById (·.id) ⟨id, key⟩ ix.records })

/-- Stores a row under the name of its table. -/
def addNamed? (ix : Index) (name : String) (given : Entries Cell) : Option Index :=
  match Relation.ofName? name with
  | some .records => (ix.addRecord? given).map (·.2)
  | some (.table t) => ix.add? t given
  | _ => none

end Catalogue.Index
