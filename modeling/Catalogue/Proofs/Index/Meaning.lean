import Catalogue.Proofs.Index.Parameters

/-! What a filter means for one row of its table, said without a statement: the texts
and years of the row are compared with the filter's, and the comparison with nothing
is neither true nor false. `condition_truth`: the condition that stands for the filter
in a statement says the same of every row whose cells are of their columns' types. -/
namespace Catalogue

open Number

namespace Index

/-! ### Typed rows -/

/-- Whether a cell is nothing, or of the type that a column of the affinity declares. -/
def Affinity.Admits : Affinity → Cell → Prop
  | _, .null => True
  | .text, .text _ => True
  | .integer, .int _ => True
  | .real, .real _ => True
  | _, _ => False

/-- Whether the cells of a row are of their columns' types. -/
def Table.Admits (t : Table) (r : Row) : Prop := ∀ c ∈ t.columns, c.affinity.Admits (r.cell c.name)

/-- The integer that a cell is, if it is one. -/
def Cell.int? : Cell → Option Int
  | int n => some n
  | _ => none

/-- The text of a row in a column, if it has one. -/
def Row.text? (r : Row) (column : String) : Option String := (r.cell column).text?

/-- The integer of a row in a column, if it has one. -/
def Row.int? (r : Row) (column : String) : Option Int := (r.cell column).int?

theorem Affinity.text_admits {c : Cell} (h : Affinity.text.Admits c) : c = Cell.ofText? c.text? := by
  cases c <;> first | rfl | exact absurd h id

theorem Affinity.integer_admits {c : Cell} (h : Affinity.integer.Admits c) :
    c = Cell.ofInt? c.int? := by
  cases c <;> first | rfl | exact absurd h id

/-- A cell where the texts of a field are looked for is a text or nothing. -/
theorem cell_of_target {field : Field} {t : Target} (ht : field.target? = some t) {r : Row}
    (hr : t.table.Admits r) {column : String} (hc : column ∈ t.columns) :
    r.cell column = Cell.ofText? (r.text? column) := by
  have hcolumn : ∃ c ∈ t.table.columns, c.name = column ∧ c.affinity = .text := by
    cases field <;> cases ht <;>
      simp only [List.mem_cons, List.not_mem_nil, or_false] at hc <;>
      first
        | (subst hc; simp [Table.columns, Column.text, Column.always, Column.defaulting])
        | (rcases hc with rfl | rfl <;> simp [Table.columns, Column.text])
  obtain ⟨c, hmem, rfl, htext⟩ := hcolumn
  have hadmits := hr c hmem
  rw [htext] at hadmits
  exact Affinity.text_admits hadmits

/-- A year of a row is an integer or nothing. -/
theorem cell_of_year {r : Row} (hr : Table.imprints.Admits r) {column : String}
    (hc : column = "date_start" ∨ column = "date_end") :
    r.cell column = Cell.ofInt? (r.int? column) := by
  have hcolumn : Column.integer column ∈ Table.imprints.columns := by
    rcases hc with rfl | rfl <;> simp [Table.columns]
  exact Affinity.integer_admits (hr _ hcolumn)

/-! ### Filters on rows -/

/-- A text of a column in the form in which it is compared: codes in lower case (A to Z). -/
def Target.compared (t : Target) (s : String) : String :=
  match t.normalization with
  | .matchKey => s
  | .foldedCode => Text.asciiLowercase s

/-- Whether a text of one of the columns passes a test. -/
def Target.someText (t : Target) (r : Row) (test : String → Bool) : Truth :=
  Truth.any (t.columns.map fun c => (r.text? c).map fun s => test (t.compared s))

/-- Whether a text matches a pattern. -/
def fitsPattern (pattern s : String) : Bool :=
  Like.holds (pattern.toList.map Text.looseForm) (s.toList.map Text.looseForm)

/-- Whether the full-text index finds a row with such a text, or without one; neither, if the
search cannot be read. -/
def findsText (search : String) (s : Option String) : Truth :=
  (FullText.strings? search).map fun phrases =>
    s.any fun s => FullText.holds phrases (s.toList.map Text.looseForm)

end Index

open Index

namespace Filter

/-- The table that a filter looks at. -/
def table (f : Filter) : Table :=
  match f.field.target? with
  | some t => t.table
  | none => .imprints

theorem table_of_target {f : Filter} {t : Target} (ht : f.field.target? = some t) : f.table = t.table := by
  rw [table, ht]

theorem table_of_year {f : Filter} (hfield : f.field = .year) : f.table = .imprints := by
  rw [table, target?_eq_none.mpr hfield]

/-- The years that a filter asks for. -/
def span? (f : Filter) : Option (Int × Int) :=
  match f.op, f.value with
  | .range, .range first last => some (first, last)
  | .equals, .text s => (parseInt64? (Text.trim s)).map fun y => (y, y)
  | _, _ => none

/-- Whether the years of a row have one in common with those that the filter asks for. -/
def yearTruth (f : Filter) (r : Row) : Truth :=
  match f.span? with
  | some (first, last) =>
    Truth.and ((r.int? "date_end").map (first ≤ ·)) ((r.int? "date_start").map (· ≤ last))
  | none => none

/-- Whether the texts of a row are what the filter asks for. -/
def textTruth (t : Target) (f : Filter) (r : Row) : Truth :=
  match f.op, f.value with
  | .equals, .text v => t.someText r (· == t.normalization.apply v)
  | .oneOf, .set vs => Truth.any (vs.map fun v => t.someText r (· == t.normalization.apply v))
  | .contains, .text v =>
    if t.table.hasFullText then
      findsText (FullText.quoteWords (t.normalization.apply v)) (r.text? "value")
    else t.someText r (fitsPattern (Like.containing (t.normalization.apply v)))
  | _, _ => none

/-- Whether a row is what the filter asks for, the filter's negation aside. -/
def plainTruth (f : Filter) (r : Row) : Truth :=
  match f.field.target? with
  | some t => f.textTruth t r
  | none => f.yearTruth r

/-- Whether a filter holds for a row of its table. -/
def truth (f : Filter) (r : Row) : Truth :=
  if f.negate then Truth.not (f.plainTruth r) else f.plainTruth r

end Filter

namespace Index

/-! ### Comparisons -/

theorem equal_text (a w : String) : Cell.equal (.text a) (.text w) = some (a == w) := by
  by_cases h : a = w
  · subst h
    simp [Cell.equal, Cell.test, Cell.isNull, Cell.order]
  · simp only [Cell.equal, Cell.test, Cell.isNull, Cell.order, h]
    by_cases hlt : a < w <;> simp [hlt, h]

theorem atLeast_int (m n : Int) : Cell.atLeast (.int m) (.int n) = some (decide (n ≤ m)) := by
  simp only [Cell.atLeast, Cell.test, Cell.isNull, Cell.order, Bool.or_self, Bool.false_eq_true,
    if_false, Option.some.injEq]
  rcases lt_trichotomy m n with h | rfl | h
  · simp [compare_lt_iff_lt.mpr h, not_le.mpr h]
  · simp
  · simp [compare_gt_iff_gt.mpr h, h.le]

theorem atMost_int (m n : Int) : Cell.atMost (.int m) (.int n) = some (decide (m ≤ n)) := by
  simp only [Cell.atMost, Cell.test, Cell.isNull, Cell.order, Bool.or_self, Bool.false_eq_true,
    if_false, Option.some.injEq]
  rcases lt_trichotomy m n with h | rfl | h
  · simp [compare_lt_iff_lt.mpr h, h.le]
  · simp
  · simp [compare_gt_iff_gt.mpr h, not_le.mpr h]

theorem any_singleton (u : Truth) : Truth.any [u] = u := by
  rcases u with _ | _ | _ <;> rfl

/-- The cell of a column as it is compared. -/
theorem cell_columnText {t : Target} {c : String} {r : Row} {s : Option String}
    (h : r.cell c = Cell.ofText? s) :
    (⟨t.table, c, t.normalization == .foldedCode⟩ : ColumnText).cell r =
      Cell.ofText? (s.map t.compared) := by
  cases ht : t.normalization <;> cases s <;>
    simp [ColumnText.cell, h, Cell.ofText?, Target.compared, Cell.folded, Cell.asText, ht]

theorem equal_columnText (s : Option String) (w : String) :
    Cell.equal (Cell.ofText? s) (.text w) = s.map (· == w) := by
  cases s with
  | none => rfl
  | some a => exact equal_text a w

theorem likeTruth_columnText (s : Option String) (p : String) :
    likeTruth (.text p) (Cell.ofText? s) = s.map (fitsPattern p) := by
  cases s <;> rfl

/-- A comparison of each column, on the model of one column. -/
theorem any_columnTexts {t : Target} {r : Row}
    (hcells : ∀ c ∈ t.columns, r.cell c = Cell.ofText? (r.text? c)) (compared : Cell → Truth)
    (test : String → Bool) (h : ∀ s : Option String, compared (Cell.ofText? s) = s.map test) :
    Truth.any (t.columnTexts.map fun c => compared (c.cell r)) = t.someText r test := by
  rw [Target.columnTexts, List.map_map, Target.someText]
  congr 1
  refine List.map_congr_left fun c hc => ?_
  show compared (ColumnText.cell _ r) = _
  rw [cell_columnText (hcells c hc), h, Option.map_map]
  rfl

/-! ### Conditions -/

variable {i : Nat} {f : Filter} {b : BoundCondition} {bound : String → Cell} {r : Row}

/-- A test of years says whether a row has one in common with those that are bound. -/
theorem overlaps_truth (hr : Table.imprints.Admits r) {p q : String} {first last : Int}
    (hfirst : bound p = .int first) (hlast : bound q = .int last) :
    (Test.overlaps p q).truth bound r =
      Truth.and ((r.int? "date_end").map (first ≤ ·)) ((r.int? "date_start").map (· ≤ last)) := by
  rw [Test.truth, hfirst, hlast, cell_of_year hr (.inl rfl), cell_of_year hr (.inr rfl)]
  congr 1
  · cases r.int? "date_end" with
    | none => rfl
    | some n => exact atLeast_int n first
  · cases r.int? "date_start" with
    | none => rfl
    | some n => exact atMost_int n last

theorem years_truth (hfield : f.field = .year) (h : condition? i f = some b)
    (hbound : ∀ e ∈ b.parameters, bound e.1 = e.2.cell) (hr : Table.imprints.Admits r) :
    b.condition.test.truth bound r = f.yearTruth r := by
  cases condition?_eq_some.mp h with
  | @years first last _ hop hvalue =>
    have hasked : f.span? = some (first, last) := by rw [Filter.span?, hop, hvalue]
    rw [Filter.yearTruth, hasked]
    simp only [List.mem_cons, List.not_mem_nil, or_false, forall_eq_or_imp, forall_eq] at hbound
    exact overlaps_truth hr hbound.1 hbound.2
  | @year s y _ hop hvalue hyear =>
    have hasked : f.span? = some (y, y) := by
      rw [Filter.span?, hop, hvalue]
      simp only [hyear, Option.map_some]
    rw [Filter.yearTruth, hasked]
    simp only [List.mem_singleton, forall_eq] at hbound
    exact overlaps_truth hr hbound hbound
  | equals htarget | found htarget | like htarget | oneOf htarget =>
    exact absurd hfield (ne_year_of_target htarget)

theorem foundTruth_eq (search : String) (s : Option String) :
    foundTruth (.text search) (Cell.ofText? s) = findsText search s := by
  unfold foundTruth findsText
  cases hs : FullText.strings? search with
  | none => simp [Cell.text?, hs]
  | some phrases =>
    cases s <;> simp [Cell.text?, hs, Cell.characters?, Cell.ofText?, Cell.asText]

/-- A target with a full-text index looks at its values. -/
theorem value_mem_columns {field : Field} {t : Target} (ht : field.target? = some t)
    (h : t.table.hasFullText = true) : "value" ∈ t.columns := by
  cases field <;> cases ht <;> first | exact absurd h (by decide) | simp

theorem texts_truth {t : Target} (ht : f.field.target? = some t) (h : condition? i f = some b)
    (hbound : ∀ e ∈ b.parameters, bound e.1 = e.2.cell)
    (hcells : ∀ c ∈ t.columns, r.cell c = Cell.ofText? (r.text? c)) :
    b.condition.test.truth bound r = f.textTruth t r := by
  have hequal : ∀ w : String, Truth.any (t.columnTexts.map fun c => Cell.equal (c.cell r) (.text w)) =
      t.someText r (· == w) :=
    fun w => any_columnTexts hcells (Cell.equal · (.text w)) _ fun s => equal_columnText s w
  unfold Filter.textTruth
  cases condition?_eq_some.mp h with
  | years hfield | year hfield => exact absurd hfield (ne_year_of_target ht)
  | equals htarget hop hvalue =>
    obtain rfl := Option.some.inj (ht.symm.trans htarget)
    simp only [List.mem_singleton, forall_eq] at hbound
    simp only [Test.truth, List.map_cons, List.map_nil, hbound, hop, hvalue]
    rw [any_singleton, Parameter.cell, hequal]
  | found htarget hop hvalue hindexed =>
    obtain rfl := Option.some.inj (ht.symm.trans htarget)
    simp only [List.mem_singleton, forall_eq] at hbound
    simp only [Test.truth, hbound, hop, hvalue, hindexed, if_true, Parameter.cell]
    rw [hcells _ (value_mem_columns ht hindexed)]
    exact foundTruth_eq ..
  | like htarget hop hvalue hindexed =>
    obtain rfl := Option.some.inj (ht.symm.trans htarget)
    simp only [List.mem_singleton, forall_eq] at hbound
    simp only [Test.truth, hbound, hop, hvalue, hindexed, Bool.false_eq_true, if_false, Parameter.cell]
    exact any_columnTexts hcells (likeTruth _) _ fun s => likeTruth_columnText s _
  | @oneOf _ values htarget hop hvalue =>
    obtain rfl := Option.some.inj (ht.symm.trans htarget)
    simp only [Test.truth, hop, hvalue, memberParameters, List.map_map]
    congr 1
    conv_rhs => rw [← List.zipIdx_map_fst 0 values, List.map_map]
    refine List.map_congr_left fun m hm => ?_
    have hm := hbound (memberName i m.2, .text (t.normalization.apply m.1)) (List.mem_map_of_mem hm)
    simp only [Function.comp_apply, hm]
    exact hequal _

/-- A condition looks at its filter's table and is negated if the filter is. -/
theorem condition_shape (h : condition? i f = some b) :
    b.condition.table = f.table ∧ b.condition.negate = f.negate := by
  cases condition?_eq_some.mp h with
  | years hfield | year hfield => exact ⟨(Filter.table_of_year hfield).symm, rfl⟩
  | equals htarget | found htarget | like htarget | oneOf htarget =>
    exact ⟨(Filter.table_of_target htarget).symm, rfl⟩

/-- The test of a condition says of a row what its filter says, negation aside. -/
theorem test_truth (h : condition? i f = some b)
    (hbound : ∀ e ∈ b.parameters, bound e.1 = e.2.cell) (hr : f.table.Admits r) :
    b.condition.test.truth bound r = f.plainTruth r := by
  unfold Filter.plainTruth
  cases ht : f.field.target? with
  | none =>
    have hfield := target?_eq_none.mp ht
    exact years_truth hfield h hbound (Filter.table_of_year hfield ▸ hr)
  | some t => exact texts_truth ht h hbound fun c hc => cell_of_target ht (Filter.table_of_target ht ▸ hr) hc

/-- A condition says of a row what its filter says. -/
theorem condition_truth (h : condition? i f = some b)
    (hbound : ∀ e ∈ b.parameters, bound e.1 = e.2.cell) (hr : f.table.Admits r) :
    b.condition.truth bound r = f.truth r := by
  rw [Condition.truth, (condition_shape h).2, test_truth h hbound hr, Filter.truth]

end Index
end Catalogue
