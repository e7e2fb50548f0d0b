import Catalogue.Index.Selection

/-! Which conditions of a statement are ever tested. A condition may be unfit to be
tested (`Condition.flaw?`): a search that cannot be read, or a pattern that is too
long. That is an error only if a visit to the tables comes to it, so the order of
the visits matters: the table that is expected to give the fewest rows opens
(`Statement.opening?`), the records follow, and then the other tables, those with
most conditions first (`Statement.followers`). A table is visited for a record only
if those before it have rows for the record that satisfy their conditions. -/
namespace Catalogue.Index

/-! ### Flaws -/

/-- Why a condition cannot be tested. -/
inductive Flaw where
  | unreadableSearch | patternTooLong
  deriving DecidableEq, Repr

/-- The greatest length of a pattern, in bytes. -/
def longestPattern : Nat := 50000

/-- Why a condition cannot be tested, if it cannot. -/
def Condition.flaw? (bound : String → Cell) (c : Condition) : Option Flaw :=
  match c.test with
  | .found search => if ((bound search).text?.bind FullText.strings?).isSome then none else some .unreadableSearch
  | .like _ pattern => if longestPattern < (bound pattern).bytes.length then some .patternTooLong else none
  | .overlaps _ _ | .equals _ _ => none

/-! ### What is settled beforehand -/

/-- The column that a test looks at, if it is one. -/
def Test.column? : Test → Option ColumnText
  | .equals [column] _ | .like [column] _ => some column
  | _ => none

/-- The column that the condition fixes to a parameter. -/
def Condition.fixes? (c : Condition) : Option (ColumnText × String) :=
  match c.test with
  | .equals [column] [p] => if c.negate || column.folded then none else some (column, p)
  | _ => none

namespace Statement

/-- The parameter that a column is fixed to; of several the last. -/
def fixedTo? (s : Statement) (column : ColumnText) : Option String :=
  (s.conditions.filterMap Condition.fixes?).reverse.lookup column

/-- A row with all that a condition looks at, if the others fix it. Such a condition is settled
before any visit. -/
def settling? (s : Statement) (c : Condition) : Option Row := do
  let column ← c.test.column?
  let p ← s.fixedTo? column
  if c.fixes? = some (column, p) then none else return ⟨0, [(column.column, s.bound p)]⟩

end Statement

/-! ### The order of visits -/

/-- Whether the condition is a search that a row must satisfy. -/
def Condition.isSearch (c : Condition) : Bool := c.test matches .found _

/-- How many rows are expected of a search. -/
def searchedRows : Nat := 25

/-- How many rows are expected of a condition whose rows can be looked up: ten for each value of an
indexed column, or those of a search. -/
def Condition.expectedRows? (c : Condition) : Option Nat :=
  if c.negate then none
  else match c.test with
    | .equals [column] parameters => if column.folded then none else some (10 * parameters.length)
    | .found _ => some searchedRows
    | _ => none

/-- Whether the condition asks for years that a row must have. -/
def Condition.asksYears (c : Condition) : Bool := !c.negate && c.test matches .overlaps _ _

/-- How many tests the condition counts as. -/
def Condition.weight (c : Condition) : Nat := if c.asksYears then 2 else 1

namespace Statement

/-- The conditions that visits to a table test, in the order in which they are written. -/
def conditionsOn (s : Statement) (t : Table) : List Condition :=
  s.conditions.filter fun c => c.table == t && (s.settling? c).isNone

/-- How many tests are made of the rows of a table. -/
def weightOn (s : Statement) (t : Table) : Nat :=
  (s.conditionsOn t).foldl (fun n c => n + c.weight) 0

/-- Whether the table has three tests or more, and the only other table one. -/
def outweighs (s : Statement) (t : Table) : Bool :=
  2 < s.weightOn t && (s.tables.filter (· != t)).map s.weightOn == [1]

/-- How many rows are expected of a table that opens: the fewest that a condition is looked up for.
Of rows that are looked up by value a fifth fewer are left in a table that outweighs the other. -/
def expectedRows? (s : Statement) (t : Table) : Option Nat :=
  ((s.conditionsOn t).filterMap Condition.expectedRows?).min?.map fun n =>
    if n != searchedRows && s.outweighs t then n * 4 / 5 else n

/-- Whether a table opens before one that would open otherwise, of which as many rows are expected.
Imprints do so with two tests or more, if agents do not have more, and with one test if agents have
one and the only other table has two. Subjects must have more tests than titles, and there must be
a cheap visit after them: languages, or a table with two tests. -/
def overtakes (s : Statement) (t before : Table) : Bool :=
  let (w, v) := (s.weightOn t, s.weightOn before)
  let others := s.tables.filter fun u => u != t && u != before
  if t == .subjects then v < w && (2 < w || others.any fun u => u == .languages || 2 ≤ s.weightOn u)
  else if w == 1 then v == 1 && others.map s.weightOn == [2]
  else v ≤ w

/-- The table of which the fewest rows are expected; of two such tables it is the first, unless the
other overtakes it. -/
def narrowest? (s : Statement) (ts : List Table) : Option Table :=
  (ts.foldl (fun best t =>
    match s.expectedRows? t, best with
    | none, _ => best
    | some n, none => some (t, n)
    | some n, some (b, m) => some (if n < m || (n == m && s.overtakes t b) then (t, n) else (b, m)))
    none).map (·.1)

/-- The table that opens; none if the records do. -/
def opening? (s : Statement) : Option Table :=
  match s.narrowest? [.agents, .imprints, .titles, .subjects] with
  | some t => some t
  | none =>
    if s.conditions.any Condition.asksYears then some .imprints
    else match s.tables with
      | [t] => if s.weightOn t < (if t == .imprints then 3 else 2) then none else some t
      | [t, _] => some t
      | _ => none

/-- Whether a table is visited before another one that would come first otherwise. After a search
more tests decide, and imprints must have more than others; after a table with fewer rows it
matters only whether there is one test, or for imprints whether there are two. -/
def comesBefore (s : Statement) (search : Bool) (t other : Table) : Bool :=
  let (w, v) := (s.weightOn t, s.weightOn other)
  if other == .imprints then if search then v ≤ w else v == 1 || 2 < w
  else if search then v < w else v == 1 && 1 < w

/-- Puts a table behind those that it does not come before. -/
def insertFollower (s : Statement) (search : Bool) (t : Table) : List Table → List Table
  | [] => [t]
  | u :: rest =>
    if s.comesBefore search t u then t :: u :: rest else u :: s.insertFollower search t rest

/-- Whether a table opens with a search. -/
def opensWithSearch (s : Statement) (t : Table) : Bool :=
  s.expectedRows? t == some searchedRows

/-- The tables that are visited after the records, in their order. -/
def followers (s : Statement) : List Table :=
  match s.opening? with
  | none => s.tables
  | some t =>
    (s.tables.filter (· != t)).foldl (fun done u => s.insertFollower (s.opensWithSearch t) u done) []

/-! ### Tests -/

/-- The condition by which the rows of a table are looked up, if there is one: in the table that
opens the one with the fewest expected rows, or years; in others a search. -/
def key? (s : Statement) (opens : Bool) (t : Table) : Option Condition :=
  let own := s.conditionsOn t
  let fewest := (own.filterMap Condition.expectedRows?).min?
  if opens then
    if fewest.isSome then own.find? (·.expectedRows? == fewest) else own.find? Condition.asksYears
  else own.find? fun c => c.isSearch && !c.negate

/-- Whether two tests look at the same columns. -/
def looksAlike (a b : Test) : Bool :=
  match a, b with
  | .overlaps .., .overlaps .. => true
  | _, _ => a.column?.isSome && a.column? == b.column?

/-- The conditions on a table in the order in which a row is tested. The key comes first; where the
table opens, those that look at the same columns follow it, elsewhere the searches. -/
def tests (s : Statement) (opens : Bool) (t : Table) : List Condition :=
  let key := s.key? opens t
  let others := (s.conditionsOn t).filter fun c => key != some c
  let early (c : Condition) : Bool :=
    if opens then key.any fun k => looksAlike k.test c.test else c.isSearch
  key.toList ++ others.filter early ++ others.filter (!early ·)

/-- The flaw that testing a row comes to. -/
def rowFlaw? (s : Statement) (r : Row) : List Condition → Option Flaw
  | [] => none
  | c :: rest =>
    match c.flaw? s.bound with
    | some f => some f
    | none => if c.truth s.bound r == some true then s.rowFlaw? r rest else none

/-- The flaw that a visit to some rows of a table comes to. A key is read before there is a row. -/
def visitFlaw? (s : Statement) (opens : Bool) (t : Table) (rows : List Row) : Option Flaw :=
  ((s.key? opens t).bind (·.flaw? s.bound)).or
    (rows.findSome? fun r => s.rowFlaw? r (s.tests opens t))

/-- Whether a row satisfies the conditions on its table. -/
def rowPasses (s : Statement) (t : Table) (r : Row) : Bool :=
  (s.conditionsOn t).all fun c => c.truth s.bound r == some true

/-- The flaw that the visits for a record come to. -/
def recordFlaw? (s : Statement) (ix : Index) (r : Record) : List Table → Option Flaw
  | [] => none
  | t :: rest =>
    match s.visitFlaw? false t (rowsOf ix r t) with
    | some f => some f
    | none => if (rowsOf ix r t).any (s.rowPasses t) then s.recordFlaw? ix r rest else none

/-- Whether a record is visited: the table that opens, if one does, has a row for it that satisfies
its conditions. -/
def visits (s : Statement) (ix : Index) (r : Record) : Bool :=
  s.opening?.all fun t => (rowsOf ix r t).any (s.rowPasses t)

/-- The flaw that visiting the tables comes to. -/
def routeFlaw? (s : Statement) (ix : Index) : Option Flaw :=
  (s.opening?.bind fun t => s.visitFlaw? true t (ix.rows t)).or
    ((ix.records.filter (s.visits ix)).findSome? fun r => s.recordFlaw? ix r s.followers)

/-- The flaw that settling conditions beforehand comes to, or whether they all hold. -/
def beforehand (s : Statement) : List Condition → Except Flaw Bool
  | [] => .ok true
  | c :: rest =>
    match s.settling? c with
    | none => s.beforehand rest
    | some r =>
      match c.flaw? s.bound with
      | some f => .error f
      | none => if c.truth s.bound r == some true then s.beforehand rest else .ok false

/-- The flaw that running the statement comes to. No table is visited if what is settled beforehand
does not hold. -/
def flaw? (s : Statement) (ix : Index) : Option Flaw :=
  match s.beforehand s.conditions with
  | .error f => some f
  | .ok holds => if holds then s.routeFlaw? ix else none

end Statement
end Catalogue.Index
