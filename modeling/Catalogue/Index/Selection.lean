import Catalogue.Index.Statement
import Catalogue.Index.Store

/-! Running a statement. Every record is joined with every combination of its rows
in the joined tables; combinations on which all conditions are true count, and of
a record's combinations the one with the smallest row numbers, compared table by
table, is kept. Records come in the order of their keys. -/
namespace Catalogue.Index

/-! ### Conditions on a row -/

/-- The cell that is bound to a name. -/
def Statement.bound (s : Statement) (name : String) : Cell :=
  ((s.parameters.get? name).map Parameter.cell).getD .null

/-- The cell of a column as it is compared. -/
def ColumnText.cell (c : ColumnText) (r : Row) : Cell :=
  if c.folded then (r.cell c.column).folded else r.cell c.column

/-- Whether a cell matches a pattern. -/
def likeTruth (pattern : Cell) (c : Cell) : Truth :=
  match pattern.characters?, c.characters? with
  | some p, some s => some (Like.holds p s)
  | _, _ => none

/-- Whether the full-text index finds a value. -/
def foundTruth (search : Cell) (value : Cell) : Truth :=
  match search.text?.bind FullText.strings? with
  | some phrases => some (value.characters?.any (FullText.holds phrases))
  | none => none

/-- Whether a test holds for a row, the names of parameters standing for cells. -/
def Test.truth (bound : String → Cell) (r : Row) : Test → Truth
  | .overlaps first last =>
    Truth.and (Cell.atLeast (r.cell "date_end") (bound first))
      (Cell.atMost (r.cell "date_start") (bound last))
  | .equals columns parameters =>
    Truth.any (parameters.map fun p => Truth.any (columns.map fun c => Cell.equal (c.cell r) (bound p)))
  | .like columns pattern => Truth.any (columns.map fun c => likeTruth (bound pattern) (c.cell r))
  | .found search => foundTruth (bound search) (r.cell "value")

/-- Whether a condition holds for a row. -/
def Condition.truth (bound : String → Cell) (r : Row) (c : Condition) : Truth :=
  if c.negate then Truth.not (c.test.truth bound r) else c.test.truth bound r

/-! ### Joins -/

/-- A record and one of its rows in each joined table, in join order. -/
structure Match where
  record : Record
  rows : List (Table × Row)
  deriving DecidableEq, Repr

namespace Match

/-- The row of a table, if it is joined. -/
def row? (m : Match) (t : Table) : Option Row := (m.rows.find? (·.1 == t)).map (·.2)

/-- The numbers of the joined rows, in join order. -/
def ids (m : Match) : List Int := m.rows.map (·.2.id)

/-- Whether a condition holds. -/
def truth (bound : String → Cell) (m : Match) (c : Condition) : Truth :=
  (m.row? c.table).bind fun r => c.truth bound r

end Match

/-- The rows of a table that belong to a record. -/
def rowsOf (ix : Index) (r : Record) (t : Table) : List Row :=
  (ix.rows t).filter fun row => row.cell "record_id" == .int r.id

/-- One row from each table, in every combination. -/
def combinations (ix : Index) (r : Record) : List Table → List (List (Table × Row))
  | [] => [[]]
  | t :: rest => (rowsOf ix r t).flatMap fun row => (combinations ix r rest).map ((t, row) :: ·)

/-- Whether row numbers come before others, table by table. -/
def idsBefore : List Int → List Int → Bool
  | a :: as, b :: bs => a < b || (a == b && idsBefore as bs)
  | _, _ => false

/-- The combination with the smallest row numbers. -/
def first? (ms : List Match) : Option Match :=
  ms.foldl (fun best m =>
    match best with
    | none => some m
    | some b => if idsBefore m.ids b.ids then some m else some b) none

/-- Puts a match behind those whose keys do not come after its key. -/
def insertByKey (m : Match) : List Match → List Match
  | [] => [m]
  | n :: rest =>
    if Cell.order m.record.key n.record.key == .lt then m :: n :: rest else n :: insertByKey m rest

/-- Matches in the order of their keys. -/
def sortByKey (ms : List Match) : List Match := ms.foldl (fun done m => insertByKey m done) []

namespace Statement

/-- Whether the combination satisfies all conditions. -/
def accepts (s : Statement) (m : Match) : Bool :=
  s.conditions.all fun c => m.truth s.bound c == some true

/-- The combinations of a record that satisfy all conditions. -/
def matchesOf (s : Statement) (ix : Index) (r : Record) : List Match :=
  ((combinations ix r s.tables).map (⟨r, ·⟩)).filter s.accepts

/-- All results, in the order of the records' keys. -/
def allResults (s : Statement) (ix : Index) : List Match :=
  sortByKey (ix.records.filterMap fun r => first? (s.matchesOf ix r))

/-- The number of results that are kept, if it is limited. -/
def limit? (s : Statement) : Option Nat :=
  if s.limited then
    match s.bound limitName with
    | .int n => some n.toNat
    | _ => none
  else none

/-- The results that are kept. -/
def results (s : Statement) (ix : Index) : List Match :=
  match s.limit? with
  | some n => (s.allResults ix).take n
  | none => s.allResults ix

end Statement
end Catalogue.Index
