import Catalogue.Proofs.Index.Description
import Catalogue.Proofs.Index.Evidence
import Catalogue.Proofs.Index.Single
import Catalogue.Proofs.Index.Support

/-! Names of publishers, places and agents. What an index stores of a name is its match key
(`keyed_of_mem_rows`, `mem_rows_of_name`), and a filter on names compares match keys, so a plan
with one such filter finds the descriptions that have a name whose match key is what the filter
asks for, or, if it is negated, is not (`execute_names`). -/
namespace Catalogue

open Text Index

/-- The names that a description has where a field looks for them. -/
def Index.Description.names (d : Description) : Field → List String
  | .publisher => d.publisher.toList
  | .place => d.place.toList
  | .agentNorm => d.agents.map (·.name)
  | _ => []

namespace Filter

/-- Whether the match key of a name is, contains or is one of those that a filter asks for. -/
def KeyMet (f : Filter) (w : String) : Prop :=
  match f.op, f.value with
  | .equals, .text v => matchKey w = matchKey v
  | .oneOf, .set vs => ∃ v ∈ vs, matchKey w = matchKey v
  | .contains, .text v => (matchKey v).toList <:+: (matchKey w).toList
  | _, _ => False

/-- `KeyMet` as a test. -/
def keyTest (f : Filter) (w : String) : Bool :=
  match f.op, f.value with
  | .equals, .text v => matchKey w == matchKey v
  | .oneOf, .set vs => vs.any fun v => matchKey w == matchKey v
  | .contains, .text v => occursIn (matchKey v).toList (matchKey w).toList
  | _, _ => false

theorem keyTest_iff (f : Filter) (w : String) : f.keyTest w = true ↔ f.KeyMet w := by
  unfold keyTest KeyMet
  split
  · exact beq_iff_eq
  · simp
  · exact occursIn_iff
  · simp

instance (f : Filter) (w : String) : Decidable (f.KeyMet w) :=
  decidable_of_iff _ (f.keyTest_iff w)

/-- Whether a filter on names is within the limits of statements: a set has not more members than a condition
may nest, and a pattern is not longer than one may be. -/
structure WithinLimits (f : Filter) : Prop where
  members : ∀ vs, f.value = .set vs → vs.length ≤ if f.negate then 994 else 995
  pattern : f.op = .contains → ∀ v, f.value = .text v →
    (Utf8.encode (Like.containing (matchKey v))).length ≤ longestPattern

end Filter

namespace Index

variable {field : Field} {t : Target} {f : Filter} {d : Description} {column : String}

/-! ### Match keys of an index -/

/-- Whether a target is one of names: they are looked for in one column of match keys, by comparison alone. -/
structure Target.OfNames (t : Target) (column : String) : Prop where
  key : t.normalization = .matchKey
  columns : t.columns = [column]
  declared : .text column ∈ t.table.columns
  unsearched : t.table.hasFullText = false
  mostMembers : ∀ negate, t.mostMembers negate = if negate then 994 else 995

theorem target_names (hfield : field ∈ [Field.publisher, .place, .agentNorm]) :
    field ≠ .subject ∧ ∃ t column, field.target? = some t ∧ t.OfNames column := by
  simp only [List.mem_cons, List.not_mem_nil, or_false] at hfield
  rcases hfield with rfl | rfl | rfl
  all_goals exact ⟨by simp, _, _, rfl, rfl, rfl, by simp [Table.columns], rfl, by decide⟩

theorem mem_rows_imprints {n : Int} {given : Entries Cell} :
    (.imprints, given) ∈ d.rows n ↔ given = d.imprint n := by
  simp [Description.rows]

theorem mem_rows_agents {n : Int} {given : Entries Cell} :
    (.agents, given) ∈ d.rows n ↔ ∃ a ∈ d.agents.zipIdx, given = Description.agentRow n a := by
  simp [Description.rows, eq_comm]

theorem cell_stored_text {u : Table} {given : Entries Cell} (hc : .text column ∈ u.columns) {row : Row}
    (hrow : row.cells = stored u given) {o : Option String} (hgiven : given.get? column = some (.ofText? o)) :
    row.cell column = .ofText? o := by
  rw [show row.cell column = _ from cell_stored hc hrow row.id, show (Column.text column).name = column from rfl,
    hgiven]
  cases o <;> rfl

/-- A row of a description has the match key of one of its names, or of none. -/
theorem keyed_of_mem_rows (ht : field.target? = some t) (hnames : t.OfNames column) {n : Int} {given : Entries Cell}
    (h : (t.table, given) ∈ d.rows n) :
    ∃ o : Option String, (∀ w ∈ o, w ∈ d.names field) ∧ given.get? column = some (.ofText? (o.map matchKey)) := by
  cases field <;> cases ht <;> cases hnames.key <;> cases hnames.columns
  case publisher =>
    rw [mem_rows_imprints.mp h]
    exact ⟨d.publisher, fun w hw => Option.mem_toList.mpr hw, rfl⟩
  case place =>
    rw [mem_rows_imprints.mp h]
    exact ⟨d.place, fun w hw => Option.mem_toList.mpr hw, rfl⟩
  case agentNorm =>
    obtain ⟨a, ha, rfl⟩ := mem_rows_agents.mp h
    refine ⟨some a.1.name, ?_, rfl⟩
    rintro w ⟨⟩
    exact List.mem_map_of_mem (List.fst_mem_of_mem_zipIdx ha)

/-- Every name of a description has a row with its match key. -/
theorem mem_rows_of_name (ht : field.target? = some t) (hnames : t.OfNames column) {w : String}
    (hw : w ∈ d.names field) (n : Int) :
    ∃ given, (t.table, given) ∈ d.rows n ∧ given.get? column = some (.ofText? ((some w).map matchKey)) := by
  cases field <;> cases ht <;> cases hnames.key <;> cases hnames.columns
  case publisher =>
    refine ⟨_, mem_rows_imprints.mpr rfl, ?_⟩
    show some (Cell.ofText? (d.publisher.map matchKey)) = _
    rw [Option.mem_toList.mp hw]
  case place =>
    refine ⟨_, mem_rows_imprints.mpr rfl, ?_⟩
    show some (Cell.ofText? (d.place.map matchKey)) = _
    rw [Option.mem_toList.mp hw]
  case agentNorm =>
    obtain ⟨a, ha, rfl⟩ := List.mem_map.mp hw
    obtain ⟨k, hk⟩ := List.mem_iff_getElem?.mp ha
    exact ⟨_, mem_rows_agents.mpr ⟨(a, k), List.mem_zipIdx_iff_getElem?.mpr hk, rfl⟩, rfl⟩

/-! ### Match keys and filters -/

theorem any_map_some {α : Type} (test : α → Bool) (as : List α) :
    Truth.any (as.map fun a => some (test a)) = some (as.any test) := by
  induction as with
  | nil => rfl
  | cons a as ih =>
    rw [List.map_cons, Truth.any, List.foldr_cons, ← Truth.any, ih, List.any_cons]
    cases test a <;> cases as.any test <;> rfl

theorem any_map_none {α : Type} {as : List α} (h : as ≠ []) : Truth.any (as.map fun _ => (none : Truth)) = none := by
  induction as with
  | nil => exact absurd rfl h
  | cons a as ih =>
    rw [List.map_cons, Truth.any, List.foldr_cons, ← Truth.any]
    cases as with
    | nil => rfl
    | cons b as => rw [ih (List.cons_ne_nil b as)]; rfl

/-- Of a row with the match key of a name, a filter says whether it asks for it; of a row without one it says
neither. -/
theorem textTruth_names (hnames : t.OfNames column) (hvalue : Filter.ValueFits f.field f.op f.value)
    (hop : f.op ≠ .range) {row : Row} {o : Option String} (hrow : row.text? column = o.map matchKey) :
    f.textTruth t row = o.map f.keyTest := by
  have hsome (test : String → Bool) : t.someText row test = o.map fun w => test (matchKey w) := by
    rw [Target.someText, hnames.columns, List.map_singleton, any_singleton, hrow, Option.map_map]
    simp only [Target.compared, hnames.key, Function.comp_def]
  unfold Filter.textTruth Filter.keyTest
  cases hop' : f.op <;> cases hvalue' : f.value <;> simp only [hop', hvalue', Filter.ValueFits] at hvalue
  case equals.text v => simp only [hsome, hnames.key, Normalization.apply]
  case contains.text v =>
    have hpattern (w : String) : fitsPattern (Like.containing (matchKey v)) (matchKey w) =
        occursIn (matchKey v).toList (matchKey w).toList := by
      rw [Bool.eq_iff_iff, fitsPattern_matchKey, occursIn_iff]
    simp only [hnames.unsearched, Bool.false_eq_true, if_false, hsome, hnames.key, Normalization.apply, hpattern]
  case range.range => exact absurd hop' hop
  case oneOf.set vs =>
    simp only [hsome, hnames.key, Normalization.apply]
    cases o with
    | none => exact any_map_none hvalue.1
    | some w => exact any_map_some _ vs

/-- The condition of a filter on names holds for a row that has the match key of a name for which the filter
asks, or, if it is negated, of one for which it does not. -/
theorem truth_names (ht : f.field.target? = some t) (hnames : t.OfNames column)
    (hvalue : Filter.ValueFits f.field f.op f.value) (hop : f.op ≠ .range) {b : BoundCondition}
    (hb : condition? 0 f = some b) {bound : String → Cell}
    (hbound : ∀ e ∈ b.parameters, bound e.1 = e.2.cell) {row : Row} {o : Option String}
    (hrow : row.cell column = .ofText? (o.map matchKey)) :
    b.condition.truth bound row = some true ↔ ∃ w ∈ o, (f.KeyMet w ↔ f.negate = false) := by
  have htext : row.text? column = o.map matchKey := by
    rw [Row.text?, hrow]
    cases o <;> rfl
  have htest : b.condition.test.truth bound row = o.map f.keyTest := by
    rw [← textTruth_names hnames hvalue hop htext]
    refine texts_truth ht hb hbound fun c hc => ?_
    rw [hnames.columns, List.mem_singleton] at hc
    rw [hc, htext, hrow]
  have hnegate : b.condition.negate = f.negate := (condition_shape hb).2
  rw [Condition.truth, htest, hnegate]
  cases o with
  | none => cases f.negate <;> simp [Truth.not]
  | some w => cases hn : f.negate <;> simp [Truth.not, ← Filter.keyTest_iff]

/-! ### Finding names -/

variable {ds : List Description} {ns : List Int} {ix : Index} {p : Plan}

/-- A hook is not called for a filter on names. -/
theorem execute_plain (hfield : f.field ≠ .subject) (hp : p.filters = [f]) {σ : Type} (hook : Option (RetryHook σ))
    (hintLimit : Nat) (st : σ) : execute ix hook hintLimit p st = (plainResult ix p, st) := by
  refine execute_settled (calledWith?_eq_none (.inl ?_)) hook
  rw [Bool.eq_false_iff, ne_eq, qualifiesForRetry_iff, hp]
  simp [hfield]

/-- A range of names has no statement. -/
theorem plainResult_range (ht : f.field.target? = some t) (hop : f.op = .range) (hp : p.filters = [f]) :
    plainResult ix p = .error (.unsupported ⟨0, f.field, .range⟩) := by
  have hcondition : condition? 0 f = none := by
    refine Option.eq_none_iff_forall_ne_some.mpr fun b hb => ?_
    cases condition?_eq_some.mp hb with
    | years hfield | year hfield => exact absurd hfield (ne_year_of_target ht)
    | equals _ hop' | found _ hop' | like _ hop' | oneOf _ hop' => cases hop.symm.trans hop'
  have hplan : Statement.ofPlan p = .error ⟨0, f.field, .range⟩ := by
    rw [Statement.ofPlan, hp, conditionsFrom_of_none hcondition, hop]
    rfl
  rw [plainResult, executeOnce_eq, hplan]
  rfl

/-- The records that a filter on names finds are those of the descriptions with a name for which it asks. -/
theorem plainResult_names (hds : empty.describeAll? ds = some (ns, ix)) (ht : f.field.target? = some t)
    (hnames : t.OfNames column) (hf : f.Valid) (hop : f.op ≠ .range) (hlimits : f.WithinLimits)
    (hp : p.filters = [f]) (hlimit : Plan.positive p.limit = none) :
    ∃ o, plainResult ix p = .ok o ∧ o.recordIds.Pairwise (· < ·) ∧ ∀ key, key ∈ o.recordIds ↔
      ∃ d ∈ ds, d.key = key ∧ ∃ w ∈ d.names f.field, (f.KeyMet w ↔ f.negate = false) := by
  obtain ⟨hlength, hentered⟩ := entered_describeAll? entered_empty hds
  rw [List.nil_append] at hentered
  have hfits : f.Fits t := by
    refine ⟨fun vs hvs => ?_, fun hcontains v hv => ⟨hnames.unsearched, ?_⟩⟩
    · rw [hnames.mostMembers]
      exact hlimits.members vs hvs
    · rw [hnames.key]
      exact hlimits.pattern hcontains v hv
  obtain ⟨b, hb⟩ := exists_condition (i := 0) hf ht hop
  obtain ⟨o, ho, hsorted, bound, hbound, hfound⟩ :=
    plainResult_single hp hlimit ht hb hfits hentered.lost (keyedRecords_of_entered hentered)
  have hholds {given : Entries Cell} {row : Row} (hrow : row.cells = stored t.table given) {o : Option String}
      (hgiven : given.get? column = some (.ofText? (o.map matchKey))) :
      b.condition.truth bound row = some true ↔ ∃ w ∈ o, (f.KeyMet w ↔ f.negate = false) :=
    truth_names ht hnames hf.value hop hb hbound (cell_stored_text hnames.declared hrow hgiven)
  refine ⟨o, ho, hsorted, fun key => ?_⟩
  rw [hfound, exists_row_iff hentered]
  -- A row was entered with the key of a name, or of none; a name was entered with a row.
  constructor
  · rintro ⟨e, he, hname, given, hgiven, row, -, hcells, htruth⟩
    obtain ⟨o, hnamed, hcell⟩ := keyed_of_mem_rows ht hnames hgiven
    obtain ⟨w, hw, hasked⟩ := (hholds hcells hcell).mp htruth
    exact ⟨e.2, (List.of_mem_zip he).2, hname, w, hnamed w hw, hasked⟩
  · rintro ⟨d, hd, hname, w, hw, hasked⟩
    obtain ⟨e, he, rfl⟩ : ∃ e ∈ ns.zip ds, e.2 = d := by
      rw [← List.map_snd_zip hlength.ge] at hd
      exact List.mem_map.mp hd
    obtain ⟨given, hgiven, hcell⟩ := mem_rows_of_name ht hnames hw e.1
    obtain ⟨row, hrow, hcells⟩ := exists_stored hentered he hgiven
    exact ⟨e, he, hname, given, hgiven, row, hrow, hcells, (hholds hcells hcell).mpr ⟨w, rfl, hasked⟩⟩

/-- Descriptions are found by the names of their publishers, places and agents: those that have a name whose match
key is what a filter asks for, or, if it is negated, is not. A range of names has no statement, and the database
refuses a set with too many members. -/
theorem execute_names (hds : empty.describeAll? ds = some (ns, ix))
    (hfield : f.field ∈ [Field.publisher, .place, .agentNorm]) (hf : f.Valid) (hp : p.filters = [f])
    (hlimit : Plan.positive p.limit = none) {σ : Type} (hook : Option (RetryHook σ)) (hintLimit : Nat) (st : σ) :
    (f.op ≠ .range → f.WithinLimits → ∃ o, execute ix hook hintLimit p st = (.ok o, st) ∧
      o.recordIds.Pairwise (· < ·) ∧ ∀ key, key ∈ o.recordIds ↔
        ∃ d ∈ ds, d.key = key ∧ ∃ w ∈ d.names f.field, (f.KeyMet w ↔ f.negate = false)) ∧
    (f.op = .range → execute ix hook hintLimit p st = (.error (.unsupported ⟨0, f.field, .range⟩), st)) ∧
    ∀ vs, f.value = .set vs → (if f.negate then 994 else 995) < vs.length → ∃ sql parameters,
      execute ix hook hintLimit p st = (.error (.query sql parameters Statement.Failure.tooDeep.message), st) := by
  obtain ⟨hsubject, t, column, ht, hnames⟩ := target_names hfield
  rw [execute_plain hsubject hp]
  refine ⟨fun hop hlimits => ?_, fun hop => by rw [plainResult_range ht hop hp], fun vs hvs hmany => ?_⟩
  · obtain ⟨o, ho, hfound⟩ := plainResult_names hds ht hnames hf hop hlimits hp hlimit
    exact ⟨o, by rw [ho], hfound⟩
  · have hop : f.op ≠ .range := by
      intro hop
      have hvalue := hf.value
      rw [hop, hvs] at hvalue
      exact hvalue
    obtain ⟨b, hb⟩ := exists_condition (i := 0) hf ht hop
    have hlost := (entered_describeAll? entered_empty hds).2.lost
    rw [← hnames.mostMembers] at hmany
    obtain ⟨sql, parameters, hrefused⟩ := plainResult_tooMany hp ht hb hvs hmany hlost
    exact ⟨sql, parameters, by rw [hrefused]⟩

/-! ### Publishers -/

/-- The description of a book of which only the publisher is known. -/
def published (key publisher : String) : Description := { Description.ofKey key with publisher := some publisher }

/-- The plan with one filter on publishers. -/
def publishing (op : Operator) (value : FilterValue) (negate : Bool) : Plan :=
  (Plan.ofText "").withFilters [⟨.publisher, op, value, negate, none, none⟩]

/-- A publisher is found whatever marks stand in the name and in the filter. -/
theorem execute_names_plantin : ∃ ns ix,
    empty.describeAll? [published "a" "C. Plantin", published "b" "Giunta"] = some (ns, ix) ∧
      ∃ o, execute ix (none : Option (RetryHook Unit)) 1 (publishing .equals (.text "[c plantin]") false) () =
        (.ok o, ()) ∧ "a" ∈ o.recordIds ∧ "b" ∉ o.recordIds := by
  obtain ⟨⟨ns, ix⟩, hds⟩ := Option.isSome_iff_exists.mp
    ((isSome_describeAll? entered_empty [published "a" "C. Plantin", published "b" "Giunta"]).mpr (by decide))
  have hvalid : Filter.Valid ⟨.publisher, .equals, .text "[c plantin]", false, none, none⟩ :=
    ⟨⟨⟨by decide +kernel, by decide⟩, by simp⟩, by simp⟩
  have hlimits : Filter.WithinLimits ⟨.publisher, .equals, .text "[c plantin]", false, none, none⟩ :=
    ⟨by simp, by simp⟩
  obtain ⟨o, ho, -, hfound⟩ :=
    (execute_names (p := publishing .equals (.text "[c plantin]") false) hds (by decide) hvalid rfl rfl
      (none : Option (RetryHook Unit)) 1 ()).1 (by decide) hlimits
  exact ⟨ns, ix, hds, o, ho, (hfound "a").mpr (by decide +kernel),
    fun h => absurd ((hfound "b").mp h) (by decide +kernel)⟩

/-- A publisher is not found by a set with too many members, and is found by a filter that is negated and asks for
another. -/
theorem not_found_by_key :
    (∃ ns ix, empty.describeAll? [published "r" "X"] = some (ns, ix) ∧ ∃ sql parameters,
      execute ix (none : Option (RetryHook Unit)) 1 (publishing .oneOf (.set (List.replicate 996 "x")) false) () =
        (.error (.query sql parameters Statement.Failure.tooDeep.message), ())) ∧
    Filter.Valid ⟨.publisher, .oneOf, .set (List.replicate 996 "x"), false, none, none⟩ ∧
    Filter.KeyMet ⟨.publisher, .oneOf, .set (List.replicate 996 "x"), false, none, none⟩ "X" ∧
    ((empty.describeAll? [published "r" "X"]).bind fun found =>
      shown? found.2 (publishing .equals (.text "y") true)) = some [("r", [some "x"])] ∧
    ¬Filter.KeyMet ⟨.publisher, .equals, .text "y", true, none, none⟩ "X" := by
  refine ⟨?_, ?_, ⟨"x", List.mem_replicate.mpr ⟨by decide, rfl⟩, by decide +kernel⟩, by decide +kernel,
    by decide +kernel⟩
  · obtain ⟨⟨ns, ix⟩, hds⟩ := Option.isSome_iff_exists.mp
      ((isSome_describeAll? entered_empty [published "r" "X"]).mpr (by decide))
    have hmany : Target.mostMembers ⟨.imprints, ["publisher_norm"], .matchKey⟩ false <
        (List.replicate 996 "x").length := by
      rw [List.length_replicate]
      decide
    obtain ⟨sql, parameters, hrefused⟩ :=
      plainResult_tooMany (p := publishing .oneOf (.set (List.replicate 996 "x")) false) rfl rfl rfl rfl hmany
        (entered_describeAll? entered_empty hds).2.lost
    exact ⟨ns, ix, hds, sql, parameters, by rw [execute_none, hrefused]⟩
  · have htrimmed : Filter.Trimmed "x" := ⟨by decide +kernel, by decide⟩
    exact ⟨⟨by decide, fun v hv => List.eq_of_mem_replicate hv ▸ htrimmed⟩, by simp⟩

end Index
end Catalogue
