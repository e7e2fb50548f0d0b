import Catalogue.Proofs.Index.Like
import Catalogue.Proofs.Index.Reference

/-! What evidence shows. The values of a result are the cells of the rows that were
joined (`value_of_mem`), and a row that a filter accepts has a text, or years, that
satisfy the filter (`textMet_of_truth`, `yearsMet_of_truth`). `execute_evidence`: the
evidence of a candidate is drawn from the first rows that the filters accept, and
what it shows satisfies them. -/
namespace Catalogue

open Json Text

namespace Index

/-! ### Result rows -/

/-- No two columns have the same name in a result. -/
theorem resultName_injective : ∀ t ∈ Table.all, ∀ u ∈ Table.all, ∀ c ∈ t.evidenceColumns,
    ∀ d ∈ u.evidenceColumns, t.resultName c = u.resultName d → t = u ∧ c = d := by decide +kernel

theorem mem_all (t : Table) : t ∈ Table.all := by cases t <;> decide

theorem keys_values (t : Table) (r : Row) : (t.values r).map (·.1) = t.resultNames := by
  rw [Table.values, List.map_map]
  rfl

/-- No two values of a result have the same name. -/
theorem nodup_resultRow {m : Match} (hn : (m.rows.map (·.1)).Nodup) :
    (m.resultRow.map (·.1)).Nodup := by
  have hnames : ∀ t ∈ Table.all, t.resultNames.Nodup ∧ "record_id" ∉ t.resultNames := by decide +kernel
  have hkeys : m.resultRow.map (·.1) = "record_id" :: m.rows.flatMap fun j => j.1.resultNames := by
    rw [Match.resultRow, List.map_cons, List.map_flatMap]
    simp only [keys_values]
  rw [hkeys, List.nodup_cons]
  constructor
  · rw [List.mem_flatMap]
    rintro ⟨j, -, hj⟩
    exact (hnames j.1 (mem_all _)).2 hj
  · rw [List.nodup_flatMap]
    refine ⟨fun j _ => (hnames j.1 (mem_all _)).1, ?_⟩
    rw [List.Nodup, List.pairwise_map] at hn
    refine hn.imp fun {i j} hne => ?_
    intro name hi hj
    obtain ⟨c, hc, rfl⟩ := List.mem_map.mp hi
    obtain ⟨d, hd, heq⟩ := List.mem_map.mp hj
    exact hne (resultName_injective _ (mem_all _) _ (mem_all _) c hc d hd heq.symm).1

/-- The value of a column of a joined row. -/
theorem value_of_mem {m : Match} (hn : (m.rows.map (·.1)).Nodup) {t : Table} {r : Row}
    (h : (t, r) ∈ m.rows) {column : String} (hc : column ∈ t.evidenceColumns) :
    ResultRow.value m.resultRow t column = (r.cell column).toJson := by
  have hmem : (t.resultName column, (r.cell column).toJson) ∈ m.resultRow :=
    List.mem_cons_of_mem _ (List.mem_flatMap.mpr ⟨(t, r), h, List.mem_map.mpr ⟨column, hc, rfl⟩⟩)
  rw [ResultRow.value, Entries.get?_of_mem (nodup_resultRow hn) hmem]
  rfl

theorem toJson_of_text? {r : Row} {column s : String} (h : r.text? column = some s) :
    (r.cell column).toJson = .str s := by
  unfold Row.text? at h
  cases hcell : r.cell column <;> rw [hcell] at h <;> cases h
  rfl

/-! ### Texts that satisfy a filter -/

/-- A text in the form in which it is equal to what a filter asks for: match keys as they are. -/
def Target.whole (t : Target) (s : String) : String :=
  match t.normalization with
  | .matchKey => s
  | .foldedCode => foldedCode s

/-- A text in the form in which it contains what a filter asks for: match keys in lower case (A to
Z), in which they are made. -/
def Target.within (t : Target) (s : String) : String :=
  match t.normalization with
  | .matchKey => asciiLowercase s
  | .foldedCode => foldedCode s

end Index

open Index

namespace Filter

/-- Whether a text is, contains or is one of what a filter asks for. -/
def TextMet (t : Target) (f : Filter) (s : String) : Prop :=
  match f.op, f.value with
  | .equals, .text v => t.whole s = t.normalization.apply v
  | .oneOf, .set vs => ∃ v ∈ vs, t.whole s = t.normalization.apply v
  | .contains, .text v => (t.normalization.apply v).toList <:+: (t.within s).toList
  | _, _ => False

/-- Whether years have one in common with those that a filter asks for. -/
def YearsMet (f : Filter) (first last : Int) : Prop :=
  ∃ low high, f.span? = some (low, high) ∧ low ≤ last ∧ first ≤ high

/-- Whether a value in JSON satisfies a filter. -/
def MetBy (f : Filter) (v : Json) : Prop :=
  match f.field.target? with
  | some t => ∃ s, v = .str s ∧ f.TextMet t s
  | none => ∃ first last, v = .arr [.int first, .int last] ∧ f.YearsMet first last

/-- Whether a filter searches the full-text index. -/
def IsSearch (f : Filter) : Prop := f.op = .contains ∧ f.table.hasFullText = true

/-- Whether what a filter asks for is read as it is written, should it be a pattern. -/
def PlainPattern (f : Filter) : Prop := f.op = .contains → ∀ v, f.value = .text v → Plain v.toList

end Filter

namespace Index

/-- Whether all texts of an index are read as they are written. -/
def PlainTexts (ix : Index) : Prop :=
  ∀ t, ∀ row ∈ ix.rows t, ∀ column s, row.text? column = some s → Plain s.toList

theorem any_eq_true {ts : List Truth} : Truth.any ts = some true ↔ some true ∈ ts := by
  induction ts with
  | nil => simp [Truth.any]
  | cons t ts ih =>
    have hor : ∀ u : Truth, Truth.or t u = some true ↔ t = some true ∨ u = some true := by
      intro u
      rcases t with _ | _ | _ <;> rcases u with _ | _ | _ <;> simp [Truth.or]
    rw [List.mem_cons, ← ih, Truth.any, List.foldr_cons, hor]
    exact or_congr_left eq_comm

theorem and_eq_true {t u : Truth} : Truth.and t u = some true ↔ t = some true ∧ u = some true := by
  rcases t with _ | _ | _ <;> rcases u with _ | _ | _ <;> simp [Truth.and]

/-- A text of a row passes a test if the test is true of some. -/
theorem someText_eq_true {t : Target} {r : Row} {test : String → Bool}
    (h : t.someText r test = some true) :
    ∃ column ∈ t.columns, ∃ s, r.text? column = some s ∧ test (t.compared s) = true := by
  obtain ⟨column, hcolumn, htext⟩ := List.mem_map.mp (any_eq_true.mp h)
  obtain ⟨s, hs, htest⟩ := Option.map_eq_some_iff.mp htext
  exact ⟨column, hcolumn, s, hs, htest⟩

theorem whole_of_compared {t : Target} {s v : String} (h : t.compared s = t.normalization.apply v) :
    t.whole s = t.normalization.apply v := by
  unfold Target.compared at h
  unfold Target.whole
  cases hn : t.normalization <;> rw [hn] at h
  · exact h
  · exact foldedCode_of_asciiLowercase h

theorem plain_apply {n : Normalization} {v : String} (h : Plain v.toList) : Plain (n.apply v).toList := by
  cases n
  · exact plain_matchKey v
  · exact plain_foldedCode h

theorem plain_compared {t : Target} {s : String} (h : Plain s.toList) : Plain (t.compared s).toList := by
  unfold Target.compared
  cases t.normalization
  · exact h
  · exact plain_asciiLowercase h

theorem within_of_compared {t : Target} {s v : String} (hs : Plain s.toList) (hv : Plain v.toList)
    (h : fitsPattern (Like.containing (t.normalization.apply v)) (t.compared s) = true) :
    (t.normalization.apply v).toList <:+: (t.within s).toList := by
  obtain ⟨a, m, b, htext, hm⟩ := (fitsPattern_containing (plain_apply hv) (plain_compared hs)).mp h
  unfold Target.compared at htext
  unfold Target.within
  cases hn : t.normalization <;> rw [hn] at htext hm
  · have hkey : m.map Char.toLower = (matchKey v).toList :=
      hm.trans (lowerText_matchKey v).map_toLower
    refine ⟨a.map Char.toLower, b.map Char.toLower, ?_⟩
    show _ ++ (matchKey v).toList ++ _ = _
    rw [asciiLowercase, String.toList_ofList, htext, List.map_append, List.map_append, hkey]
  · have hcode : m.map Char.toLower = (foldedCode v).toList :=
      hm.trans (lowerText_foldedCode v).map_toLower
    simp only [asciiLowercase, String.toList_ofList] at htext
    obtain ⟨am', b', hs', ham, hb⟩ := List.map_eq_append_iff.mp htext
    obtain ⟨a', m', ham', ha, hm'⟩ := List.map_eq_append_iff.mp ham
    have hsame : m'.map Char.toLower = m.map Char.toLower := by
      rw [← hm', List.map_map]
      exact List.map_congr_left fun c _ => (lower_toLower c).2.2.symm
    exact occursIn_iff.mp
      (foldedCode_of_stretch (by rw [hs', ham']) (hsame.trans hcode))

/-- A row that a filter on texts accepts has a text that satisfies it. -/
theorem textMet_of_truth {t : Target} {f : Filter} {r : Row} (h : f.textTruth t r = some true)
    (hsearch : ¬(f.op = .contains ∧ t.table.hasFullText = true)) (hpattern : f.PlainPattern)
    (hplain : f.op = .contains → ∀ column s, r.text? column = some s → Plain s.toList) :
    ∃ column ∈ t.columns, ∃ s, r.text? column = some s ∧ f.TextMet t s := by
  unfold Filter.textTruth at h
  split at h
  · rename_i v hop hvalue
    obtain ⟨column, hcolumn, s, hs, htest⟩ := someText_eq_true h
    refine ⟨column, hcolumn, s, hs, ?_⟩
    rw [Filter.TextMet, hop, hvalue]
    exact whole_of_compared (by simpa using htest)
  · rename_i vs hop hvalue
    obtain ⟨v, hv, htrue⟩ := List.mem_map.mp (any_eq_true.mp h)
    obtain ⟨column, hcolumn, s, hs, htest⟩ := someText_eq_true htrue
    refine ⟨column, hcolumn, s, hs, ?_⟩
    rw [Filter.TextMet, hop, hvalue]
    exact ⟨v, hv, whole_of_compared (by simpa using htest)⟩
  · rename_i v hop hvalue
    rw [if_neg (by simpa [hop] using hsearch)] at h
    obtain ⟨column, hcolumn, s, hs, htest⟩ := someText_eq_true h
    refine ⟨column, hcolumn, s, hs, ?_⟩
    rw [Filter.TextMet, hop, hvalue]
    exact within_of_compared (hplain hop column s hs) (hpattern hop v hvalue) htest
  · cases h

/-- A row that a filter on years accepts has years that satisfy it. -/
theorem yearsMet_of_truth {f : Filter} {r : Row} (h : f.yearTruth r = some true) :
    ∃ first last, r.int? "date_start" = some first ∧ r.int? "date_end" = some last ∧
      f.YearsMet first last := by
  unfold Filter.yearTruth at h
  split at h
  · rename_i low high hspan
    obtain ⟨hend, hstart⟩ := and_eq_true.mp h
    obtain ⟨last, hlast, hlow⟩ := Option.map_eq_some_iff.mp hend
    obtain ⟨first, hfirst, hhigh⟩ := Option.map_eq_some_iff.mp hstart
    exact ⟨first, last, hfirst, hlast, low, high, hspan, of_decide_eq_true hlow, of_decide_eq_true hhigh⟩
  · cases h

end Index

/-! ### What is shown -/

namespace Evidence

/-- Whether evidence for a filter names one of the columns that the filter looks at, and has the cell
of a row in it; years are shown together. -/
def Shows (e : Evidence) (f : Filter) (r : Row) : Prop :=
  match f.field.target? with
  | some t => ∃ column ∈ t.columns, e.field = t.table.name ++ "." ++ column ∧ e.value = (r.cell column).toJson
  | none =>
    let first := (r.cell "date_start").toJson
    let last := (r.cell "date_end").toJson
    e.field = "imprints.date_start..date_end" ∧
      e.value = if first.isNull && last.isNull then .null else .arr [first, last]

/-- Evidence looks where its filter does. -/
theorem witness_of_target {field : Field} {t : Target} (h : field.target? = some t) :
    field ≠ .year ∧ (witness field).table = t.table ∧ (∀ c ∈ t.columns, c ∈ t.table.evidenceColumns) ∧
      (field ≠ .country ∧ t.columns = [(witness field).column] ∨
        field = .country ∧ t = ⟨.imprints, ["country_name", "country_code"], .foldedCode⟩) := by
  cases field <;> cases h <;> simp [witness, Table.evidenceColumns]

/-- A text satisfies a filter in the sense of evidence if it does in that of filters on codes. -/
theorem satisfies_iff {t : Target} (ht : t.normalization = .foldedCode) {f : Filter} {other : String}
    (hother : f.TextMet t other) (s : String) : satisfies f (.str s) = true ↔ f.TextMet t s := by
  unfold Filter.TextMet at hother ⊢
  unfold satisfies
  have hwhole : ∀ u, t.whole u = foldedCode u := fun u => by rw [Target.whole, ht]
  have hwithin : ∀ u, t.within u = foldedCode u := fun u => by rw [Target.within, ht]
  have happly : ∀ u, t.normalization.apply u = foldedCode u := fun u => by rw [ht]; rfl
  simp only [hwhole, hwithin, happly] at hother ⊢
  split at hother
  · rename_i v hop hvalue
    simp [hop, hvalue, str?]
  · rename_i vs hop hvalue
    simp [hvalue, str?]
  · rename_i v hop hvalue
    simp [hop, hvalue, str?, occursIn_iff]
  · cases hother

/-- Nothing but a text satisfies a filter in the sense of evidence. -/
theorem met_of_satisfies {t : Target} (ht : t.normalization = .foldedCode) {f : Filter} {other : String}
    (hother : f.TextMet t other) {v : Json} (h : satisfies f v = true) :
    ∃ s, v = .str s ∧ f.TextMet t s := by
  cases v with
  | str s => exact ⟨s, rfl, (satisfies_iff ht hother s).mp h⟩
  | _ => cases h

variable {m : Match} {f : Filter} {r : Row}

theorem of_shows (hn : (m.rows.map (·.1)).Nodup) (h : (f.table, r) ∈ m.rows) :
    (of f m.resultRow).Shows f r := by
  unfold Shows
  cases ht : f.field.target? with
  | none =>
    have hyear := target?_eq_none.mp ht
    rw [Filter.table_of_year hyear] at h
    have hvalue : ∀ c ∈ ["date_start", "date_end"],
        ResultRow.value m.resultRow .imprints c = (r.cell c).toJson :=
      fun c hc => value_of_mem hn h (by revert c; decide)
    simp only [of, hyear, if_true, years, hvalue _ (.head _), hvalue _ (.tail _ (.head _)), true_and]
  | some t =>
    rw [Filter.table_of_target ht] at h
    obtain ⟨hyear, htable, hcolumns, hcases⟩ := witness_of_target ht
    simp only [of, hyear, if_false, witnessIn]
    rcases hcases with ⟨hne, hcolumn⟩ | ⟨hcountry, rfl⟩
    · have hmem : (witness f.field).column ∈ t.columns := by rw [hcolumn]; exact List.mem_singleton_self _
      rw [if_neg hne, htable]
      exact ⟨_, hmem, rfl, value_of_mem hn h (hcolumns _ hmem)⟩
    · rw [if_pos hcountry, htable]
      have hmem : countryColumn f m.resultRow ∈ ["country_name", "country_code"] := by
        unfold countryColumn
        split <;> simp
      exact ⟨_, hmem, rfl, value_of_mem hn h (hcolumns _ hmem)⟩

/-- If a row has a text that satisfies a filter, evidence shows one. -/
theorem met_of_text {t : Target} (ht : f.field.target? = some t) (hn : (m.rows.map (·.1)).Nodup)
    (h : (t.table, r) ∈ m.rows) {column : String} (hcolumn : column ∈ t.columns) {s : String}
    (hs : r.text? column = some s) (hmet : f.TextMet t s) : f.MetBy (of f m.resultRow).value := by
  obtain ⟨hyear, htable, hcolumns, hcases⟩ := witness_of_target ht
  unfold Filter.MetBy
  rw [ht]
  simp only [of, hyear, if_false, witnessIn]
  have hvalue : ∀ c ∈ t.columns, ResultRow.value m.resultRow t.table c = (r.cell c).toJson :=
    fun c hc => value_of_mem hn h (hcolumns c hc)
  rcases hcases with ⟨hne, hone⟩ | ⟨hcountry, rfl⟩
  · have heq : column = (witness f.field).column := by rwa [hone, List.mem_singleton] at hcolumn
    rw [if_neg hne, htable, ← heq, hvalue column hcolumn, toJson_of_text? hs]
    exact ⟨s, rfl, hmet⟩
  · rw [if_pos hcountry, htable]
    have hname := hvalue "country_name" (by simp)
    have hcode := hvalue "country_code" (by simp)
    have hsatisfied : satisfies f (ResultRow.value m.resultRow .imprints column) = true := by
      rw [hvalue column hcolumn, toJson_of_text? hs]
      exact (satisfies_iff rfl hmet s).mpr hmet
    unfold countryColumn
    split
    · rename_i hsplit
      exact met_of_satisfies rfl hmet (Bool.and_eq_true_iff.mp hsplit).2
    · rename_i hsplit
      -- the name is shown also where neither satisfies the filter, but one of them does
      refine met_of_satisfies rfl hmet ?_
      by_contra hname
      simp only [List.mem_cons, List.not_mem_nil, or_false] at hcolumn
      rcases hcolumn with rfl | rfl
      · exact hname hsatisfied
      · exact hsplit (by simp [hname, hsatisfied])

/-- If a row has years that satisfy a filter, evidence shows them. -/
theorem met_of_years (ht : f.field.target? = none) (hn : (m.rows.map (·.1)).Nodup)
    (h : (Table.imprints, r) ∈ m.rows) {first last : Int} (hfirst : r.int? "date_start" = some first)
    (hlast : r.int? "date_end" = some last) (hmet : f.YearsMet first last) :
    f.MetBy (of f m.resultRow).value := by
  have hcell : ∀ {c : String} {n : Int}, r.int? c = some n → (r.cell c).toJson = .int n := by
    intro c n hn
    unfold Row.int? at hn
    cases hcell : r.cell c <;> rw [hcell] at hn <;> cases hn
    rfl
  obtain ⟨-, hvalue⟩ : (of f m.resultRow).field = "imprints.date_start..date_end" ∧ _ := by
    have hshows := of_shows (f := f) (r := r) hn (Filter.table_of_year (target?_eq_none.mp ht) ▸ h)
    unfold Shows at hshows
    rwa [ht] at hshows
  rw [hcell hfirst, hcell hlast] at hvalue
  unfold Filter.MetBy
  rw [ht]
  exact ⟨first, last, hvalue, hmet⟩

end Evidence

namespace Index

/-! ### Candidates -/

/-- Whether a combination of rows is what a candidate of a plan is drawn from: it has one row of the
record in each table that the plan looks at, the first of those that satisfy all filters on the
table. -/
structure DrawnFrom (ix : Index) (p : Plan) (c : Candidate) (m : Match) : Prop where
  record : m.record ∈ ix.records
  key : m.record.key = .text c.recordId
  tables : m.rows.map (·.1) = p.tables
  accepted : ∀ j ∈ m.rows, j.2 ∈ rowsOf ix m.record j.1 ∧ p.Accepts j.1 j.2
  first : ∀ j ∈ m.rows, ∀ r ∈ rowsOf ix m.record j.1, p.Accepts j.1 r → j.2.id ≤ r.id

theorem mem_of_mem_limited {p : Plan} {cs : List Candidate} {c : Candidate} (h : c ∈ limited p cs) :
    c ∈ cs := by
  unfold limited at h
  split at h
  · exact List.mem_of_mem_take h
  · exact h

/-- A candidate of a statement is drawn from one of its matches. -/
theorem drawnFrom_of_mem {ix : Index} {p : Plan} {s : Statement} {bs : List BoundCondition}
    (h : StatementOf p s bs) (hix : ix.WellFormed) {c : Candidate} (hc : c ∈ allCandidates s ix p) :
    ∃ m, ix.DrawnFrom p c m ∧ c.evidence = p.filters.map fun f => Evidence.of f m.resultRow := by
  obtain ⟨m, hm, rfl⟩ := List.mem_map.mp hc
  obtain ⟨r, hr, hfirst⟩ := (mem_allResults hix.keyed).mp hm
  have hhas := hasKey_of_mem_allResults hix.keyed hm
  obtain ⟨rfl, htables, hrows⟩ := (h.mem_matchesOf hix.typed).mp (mem_of_first? hfirst)
  refine ⟨m, ⟨hr, ?_, htables, hrows, ?_⟩, rfl⟩
  · rw [recordId_candidate p hhas]
    exact hhas
  · exact fun j hj row hrow haccepts => h.least_of_first? hix.typed hfirst hj hrow haccepts

/-- Evidence of a row that a filter accepts satisfies the filter. -/
theorem met_of_accepts {ix : Index} {p : Plan} {f : Filter} (hf : f ∈ p.filters) {m : Match}
    (hn : (m.rows.map (·.1)).Nodup) {r : Row} (h : (f.table, r) ∈ m.rows) (hrow : r ∈ ix.rows f.table)
    (haccepts : p.Accepts f.table r) (hnegate : f.negate = false) (hsearch : ¬f.IsSearch)
    (hpattern : f.PlainPattern) (hplain : f.op = .contains → ix.PlainTexts) :
    f.MetBy (Evidence.of f m.resultRow).value := by
  have htruth := haccepts f hf rfl
  rw [Filter.truth, hnegate, if_neg (by simp), Filter.plainTruth] at htruth
  cases ht : f.field.target? with
  | none =>
    rw [Filter.table_of_year (target?_eq_none.mp ht)] at h
    rw [ht] at htruth
    obtain ⟨first, last, hfirst, hlast, hmet⟩ := yearsMet_of_truth htruth
    exact Evidence.met_of_years ht hn h hfirst hlast hmet
  | some t =>
    rw [Filter.IsSearch, Filter.table_of_target ht] at hsearch
    rw [Filter.table_of_target ht] at h hrow
    rw [ht] at htruth
    obtain ⟨column, hcolumn, s, hs, hmet⟩ := textMet_of_truth htruth hsearch hpattern
      fun hop => hplain hop t.table r hrow
    exact Evidence.met_of_text ht hn h hcolumn hs hmet

/-- The evidence of a candidate has one entry for each filter, in their order. All of it is drawn
from the rows that come first among those that the filters accept, and shows a value that satisfies
its filter, unless the filter is negated or searches the full-text index. What contains a text in
the sense of a pattern contains it in that of evidence if both are read as they are written. -/
theorem execute_evidence {σ : Type} {ix : Index} {p : Plan} {hook : Option (RetryHook σ)}
    {hintLimit : Nat} {st st' : σ} {o : Outcome} (hix : ix.WellFormed)
    (ho : execute ix hook hintLimit p st = (.ok o, st')) :
    ∀ c ∈ o.candidates, ∃ m, ix.DrawnFrom o.plan c m ∧
      c.evidence = o.plan.filters.map (fun f => Evidence.of f m.resultRow) ∧
      ∀ f ∈ o.plan.filters,
        (∃ r, (f.table, r) ∈ m.rows ∧ (Evidence.of f m.resultRow).Shows f r) ∧
        (f.negate = false → ¬f.IsSearch → f.PlainPattern → (f.op = .contains → ix.PlainTexts) →
          f.MetBy (Evidence.of f m.resultRow).value) := by
  obtain ⟨-, -, s, ms, honce, houtcome⟩ := execute_eq_ok ho
  obtain ⟨hs, rfl⟩ := executeOnce_eq_ok honce
  obtain ⟨bs, hbs⟩ := statementOf_ofPlan hs
  intro c hc
  rw [houtcome, candidates_outcome hbs hix] at hc
  obtain ⟨m, hdrawn, hevidence⟩ := drawnFrom_of_mem hbs hix (mem_of_mem_limited hc)
  refine ⟨m, hdrawn, hevidence, fun f hf => ?_⟩
  have hn : (m.rows.map (·.1)).Nodup := hdrawn.tables ▸ o.plan.nodup_tables
  have hjoined : f.table ∈ m.rows.map (·.1) := hdrawn.tables ▸ Plan.mem_tables.mpr ⟨f, hf, rfl⟩
  obtain ⟨⟨t, r⟩, hj, rfl⟩ := List.mem_map.mp hjoined
  obtain ⟨hrow, haccepts⟩ := hdrawn.accepted _ hj
  exact ⟨⟨r, hj, Evidence.of_shows hn hj⟩,
    met_of_accepts hf hn hj (mem_rowsOf.mp hrow).1 haccepts⟩

/-! ### Texts that patterns read otherwise -/

/-- An index of one record, with one row that has a text. -/
def single (t : Table) (column s : String) : Index :=
  { empty with records := [⟨1, .text "r"⟩] }.withRows t
    [⟨1, [("record_id", .int 1), (column, .text s)]⟩]

/-- The plan that asks for what contains a text. -/
def containing (field : Field) (s : String) : Plan :=
  { Plan.ofText "" with filters := [⟨field, .contains, .text s, false, none, none⟩] }

/-- The records that a plan returns, each with the texts that its evidence shows. -/
def shown? (ix : Index) (p : Plan) : Option (List (String × List (Option String))) :=
  (execute ix (none : Option (RetryHook Unit)) 1 p ()).1.toOption.map fun o =>
    o.candidates.map fun c => (c.recordId, c.evidence.map (·.value.str?))

theorem wellFormed_single {t : Table} {column : String}
    (h : (t, column) ∈ [(Table.imprints, "publisher_norm"), (.agents, "agent_raw")]) (s : String) :
    (single t column s).WellFormed := by
  simp only [List.mem_cons, Prod.mk.injEq, List.not_mem_nil, or_false] at h
  rcases h with ⟨rfl, rfl⟩ | ⟨rfl, rfl⟩
  all_goals
    refine ⟨rfl, ⟨by simp [single, withRows], by simp [single, withRows]⟩, by simp [single, withRows]; decide, ?_⟩
    intro t
    cases t <;> simp [rows, single, withRows, empty, Table.Admits, Table.columns, Row.cell, Affinity.Admits,
      Column.integer, Column.text, Column.real, Column.always, Column.defaulting, Entries.get?]

theorem plainTexts_single {s : String} (hs : Plain s.toList) (t : Table) (column : String) :
    (single t column s).PlainTexts := by
  intro u row hrow name text htext
  have hcell : row = ⟨1, [("record_id", .int 1), (column, .text s)]⟩ := by
    cases t <;> cases u <;> simp_all [single, withRows, rows, empty]
  subst hcell
  simp only [Row.text?, Row.cell, Entries.get?_cons, Entries.get?_nil] at htext
  split at htext
  · cases htext
  split at htext
  · cases htext
  split at htext
  · cases htext
    exact hs
  · cases htext

/-- A search for capitals finds a match key, and shows it. -/
theorem execute_evidence_single : ∃ o, execute (single .imprints "publisher_norm" "an abcd")
    (none : Option (RetryHook Unit)) 1 (containing .publisher "ABC") () = (.ok o, ()) ∧
      ∃ c ∈ o.candidates, ∃ m,
        DrawnFrom (single .imprints "publisher_norm" "an abcd") o.plan c m ∧
        ∀ f ∈ o.plan.filters, f.MetBy (Evidence.of f m.resultRow).value := by
  have hshown : shown? (single .imprints "publisher_norm" "an abcd") (containing .publisher "ABC") =
      some [("r", [some "an abcd"])] := by decide +kernel
  obtain ⟨o, hok, hlist⟩ := Option.map_eq_some_iff.mp hshown
  have ho : execute (single .imprints "publisher_norm" "an abcd") (none : Option (RetryHook Unit)) 1
      (containing .publisher "ABC") () = (.ok o, ()) := by
    cases he : execute (single .imprints "publisher_norm" "an abcd") (none : Option (RetryHook Unit)) 1
      (containing .publisher "ABC") () with
    | mk result u =>
      rw [he] at hok
      cases result <;> cases hok
      rfl
  have hplan : o.plan = containing .publisher "ABC" := by
    obtain ⟨s, ms, -, rfl⟩ := execute_none_eq_ok ho
    rfl
  obtain ⟨c, hc⟩ : ∃ c, c ∈ o.candidates := by
    cases hcs : o.candidates with
    | nil => rw [hcs] at hlist; cases hlist
    | cons c cs => exact ⟨c, List.mem_cons_self ..⟩
  obtain ⟨m, hdrawn, -, hfilters⟩ := execute_evidence (wellFormed_single (by simp) _) ho c hc
  refine ⟨o, ho, c, hc, m, hdrawn, fun f hf => (hfilters f hf).2 ?_ ?_ ?_ ?_⟩
  all_goals
    rw [hplan] at hf
    obtain rfl := List.mem_singleton.mp hf
  · rfl
  · simp [Filter.IsSearch, Filter.table, Field.target?, Table.hasFullText]
  · rintro - v ⟨⟩
    simp [Plain, PlainChar]
  · exact fun _ => plainTexts_single (by simp [Plain, PlainChar]) _ _

/-- Evidence may show a text that does not contain what a filter asks for: a pattern does not tell
capitals A to Z from other letters even in a match key, reads two characters as a third, and stops
at the zero character. -/
theorem shown_without_text :
    (∀ s, (single .imprints "publisher_norm" s).WellFormed) ∧
    (∀ s, (single .agents "agent_raw" s).WellFormed) ∧
    (shown? (single .imprints "publisher_norm" "XABCX") (containing .publisher "abc") =
        some [("r", [some "XABCX"])] ∧
      ¬(matchKey "abc").toList <:+: "XABCX".toList) ∧
    (shown? (single .agents "agent_raw" "a\uFFFEb") (containing .agent "a\uFFFDb") =
        some [("r", [some "a\uFFFEb"])] ∧
      ¬(foldedCode "a\uFFFDb").toList <:+: (foldedCode "a\uFFFEb").toList) ∧
    (shown? (single .agents "agent_raw" "xa") (containing .agent "a\x00b") =
        some [("r", [some "xa"])] ∧
      ¬(foldedCode "a\x00b").toList <:+: (foldedCode "xa").toList) := by
  refine ⟨wellFormed_single (by simp), wellFormed_single (by simp), ?_⟩
  decide +kernel

end Index
end Catalogue
