import Catalogue.Index.Statement

/-! How large a statement may be. Expressions nest: a comparison stands over a column,
a link between two conditions over both of them. A statement that nests too deeply
or has too many parameters is refused before any row is looked at. -/
namespace Catalogue.Index

/-- How deeply a column nests: table and name, and what changes its case. -/
def ColumnText.depth (c : ColumnText) : Nat := if c.folded then 3 else 2

/-- How deeply a comparison of each of some columns nests, one linked to the next. -/
def columnsDepth (columns : List ColumnText) : Nat :=
  (columns.map ColumnText.depth).foldl max 0 + columns.length

/-- How deeply a test nests. -/
def Test.depth : Test → Nat
  | .overlaps _ _ => 4
  | .equals columns parameters => columnsDepth columns + (parameters.length - 1)
  | .like columns _ => columnsDepth columns
  | .found _ => 3

/-- How deeply a condition nests. -/
def Condition.depth (c : Condition) : Nat := c.test.depth + if c.negate then 1 else 0

/-- How deeply an expression nests that links one to what comes before it. -/
def linked (before next : Nat) : Nat := if before == 0 then next else max before next + 1

namespace Statement

/-- How deeply the conditions of a statement nest, those of its joins included. -/
def depth (s : Statement) : Nat :=
  (s.tables.map fun _ => 3).foldl linked ((s.conditions.map Condition.depth).foldl linked 0)

/-- How deeply conditions may nest. -/
def greatestDepth : Nat := 998

/-- How many parameters a statement may have. -/
def mostParameters : Nat := 32766

end Statement
end Catalogue.Index
