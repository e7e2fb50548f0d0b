import Catalogue.Proofs.Index.Reference

/-! Plans of one filter. Their statements join one table, so a record is found if one of its
rows there satisfies the filter's condition (`isSome_first?_single`). Such a statement runs if
the condition does not nest too deeply and its pattern is not too long (`runnable_single`);
for a filter on texts this limits the members of a set (`Target.mostMembers`).
`plainResult_single`: without a limit all records that are found come out. -/
namespace Catalogue

open Index

/-! ### Limits -/

/-- How many members a set may have that is compared with the texts of a target. -/
def Index.Target.mostMembers (t : Target) (negate : Bool) : Nat :=
  Statement.greatestDepth - columnsDepth t.columnTexts - if negate then 1 else 0

/-- Whether a filter on texts is within the limits of statements: its set has not too many members, and its
pattern, if it is made into one, is not too long. -/
structure Filter.Fits (t : Target) (f : Filter) : Prop where
  members : ∀ values, f.value = .set values → values.length ≤ t.mostMembers f.negate
  pattern : f.op = .contains → ∀ s, f.value = .text s → t.table.hasFullText = false ∧
    (Text.Utf8.encode (Like.containing (t.normalization.apply s))).length ≤ longestPattern

namespace Index

theorem columnsDepth_target {field : Field} {t : Target} (ht : field.target? = some t) :
    columnsDepth t.columnTexts ≤ 5 := by
  cases field <;> cases ht <;> decide

variable {i : Nat} {f : Filter} {t : Target} {b : BoundCondition} {p : Plan} {s : Statement} {ix : Index}

/-- The condition of a filter within the limits does not nest too deeply. -/
theorem depth_of_fits (ht : f.field.target? = some t) (hb : condition? i f = some b) (h : f.Fits t) :
    b.condition.depth < Statement.greatestDepth := by
  have hcolumns := columnsDepth_target ht
  have hnegate : (if f.negate then 1 else 0) ≤ 1 := by split <;> omega
  cases condition?_eq_some.mp hb with
  | years hfield | year hfield => exact absurd hfield (ne_year_of_target ht)
  | equals htarget | found htarget | like htarget =>
    obtain rfl := Option.some.inj (ht.symm.trans htarget)
    simp only [Condition.depth, Test.depth, Statement.greatestDepth, List.length_singleton]
    omega
  | oneOf htarget _ hvalue =>
    -- A set nests once for each member, and below the last one as its columns do.
    obtain rfl := Option.some.inj (ht.symm.trans htarget)
    have hmembers := h.members _ hvalue
    simp only [Target.mostMembers, Statement.greatestDepth, Condition.depth, Test.depth, memberParameters,
      List.length_map, List.length_zipIdx] at hmembers ⊢
    omega

/-- The condition of a set with too many members does. -/
theorem depth_of_tooMany (ht : f.field.target? = some t) (hb : condition? i f = some b) {values : List String}
    (hvalue : f.value = .set values) (h : t.mostMembers f.negate < values.length) :
    Statement.greatestDepth ≤ b.condition.depth := by
  cases condition?_eq_some.mp hb with
  | years _ _ hvalue' | year _ _ hvalue' | equals _ _ hvalue' | found _ _ hvalue' | like _ _ hvalue' =>
    cases hvalue.symm.trans hvalue'
  | oneOf htarget _ hvalue' =>
    obtain rfl := Option.some.inj (ht.symm.trans htarget)
    cases hvalue.symm.trans hvalue'
    simp only [Target.mostMembers, Statement.greatestDepth, Condition.depth, Test.depth, memberParameters,
      List.length_map, List.length_zipIdx] at h ⊢
    omega

/-! ### Statements of one condition -/

theorem tables_single {c : Condition} (h : s.conditions = [c]) : s.tables = [c.table] := by
  unfold Statement.tables
  rw [h]
  obtain ⟨t, test, negate⟩ := c
  cases t <;> rfl

theorem depth_single {c : Condition} (h : s.conditions = [c]) :
    s.depth = if c.depth = 0 then 3 else max c.depth 3 + 1 := by
  unfold Statement.depth
  rw [tables_single h, h]
  by_cases hzero : c.depth = 0 <;> simp [linked, hzero]

/-- A condition has hardly more parameters than it nests. -/
theorem length_parameters_le (hb : condition? i f = some b) : b.parameters.length ≤ b.condition.depth + 1 := by
  cases condition?_eq_some.mp hb with
  | years =>
    simp only [Condition.depth, Test.depth, List.length_cons, List.length_nil]
    omega
  | year | equals | found | like => simp
  | oneOf =>
    simp only [Condition.depth, Test.depth, List.length_map]
    omega

/-- A statement of one condition runs if the condition can be tested and does not nest too deeply. -/
theorem runnable_single (h : StatementOf p s [b]) (hb : condition? i f = some b)
    (hdepth : b.condition.depth < Statement.greatestDepth) (hflaw : b.condition.flaw? s.bound = none) :
    s.Runnable := by
  have hconditions : s.conditions = [b.condition] := h.conditions
  refine ⟨?_, ?_, fun c hc => ?_⟩
  · rw [depth_single hconditions]
    unfold Statement.greatestDepth at *
    split <;> omega
  · have hlength := Entries.length_sorted_le ([b].flatMap (·.parameters) ++ limitParameters p)
    have hparameters := length_parameters_le hb
    have hlimit : (limitParameters p).length ≤ 1 := by
      unfold limitParameters
      cases Plan.positive p.limit <;> simp
    rw [← h.parameters] at hlength
    simp only [List.flatMap_cons, List.flatMap_nil, List.append_nil, List.length_append] at hlength
    unfold Statement.greatestDepth Statement.mostParameters at *
    omega
  · rw [hconditions] at hc
    exact List.mem_singleton.mp hc ▸ hflaw

/-- A condition on texts can be tested, unless it is a search or its pattern is too long. -/
theorem flaw?_of_fits (ht : f.field.target? = some t) (hb : condition? i f = some b) (h : f.Fits t)
    {bound : String → Cell} (hbound : ∀ e ∈ b.parameters, bound e.1 = e.2.cell) :
    b.condition.flaw? bound = none := by
  cases condition?_eq_some.mp hb with
  | years | year | equals | oneOf => rfl
  | found htarget hop hvalue hindexed =>
    obtain rfl := Option.some.inj (ht.symm.trans htarget)
    rw [(h.pattern hop _ hvalue).1] at hindexed
    cases hindexed
  | like htarget hop hvalue =>
    obtain rfl := Option.some.inj (ht.symm.trans htarget)
    have hlength := (h.pattern hop _ hvalue).2
    simp only [List.mem_singleton, forall_eq] at hbound
    simp only [Condition.flaw?, hbound, Parameter.cell, Cell.bytes]
    exact if_neg (Nat.not_lt.mpr hlength)

/-! ### Records that are found -/

/-- A statement of one condition keeps a combination for a record if one of the record's rows satisfies the
condition. -/
theorem isSome_first?_single {c : Condition} (h : s.conditions = [c]) {r : Record} :
    (first? (s.matchesOf ix r)).isSome ↔ ∃ row ∈ rowsOf ix r c.table, c.truth s.bound row = some true := by
  have hmatches : s.matchesOf ix r =
      ((rowsOf ix r c.table).filter fun row => c.truth s.bound row == some true).map fun row =>
        ⟨r, [(c.table, row)]⟩ := by
    unfold Statement.matchesOf
    rw [tables_single h, List.filter_map]
    have haccepts (row : Row) : s.accepts ⟨r, [(c.table, row)]⟩ = (c.truth s.bound row == some true) := by
      simp [Statement.accepts, h, Match.truth, Match.row?]
    have hcombinations : combinations ix r [c.table] = (rowsOf ix r c.table).map fun row => [(c.table, row)] := by
      rw [List.map_eq_flatMap]
      simp [combinations]
    rw [hcombinations, List.filter_map, List.map_map]
    simp only [Function.comp_def, haccepts]
  rw [isSome_first?, hmatches, ne_eq, List.map_eq_nil_iff, List.filter_eq_nil_iff]
  simp

/-- The statement of a plan of one filter. -/
theorem statementOf_single (hp : p.filters = [f]) (hb : condition? 0 f = some b) :
    ∃ s, Statement.ofPlan p = .ok s ∧ StatementOf p s [b] := by
  have hfilters : List.Forall₂ (fun f b => condition? f.2 f.1 = some b) p.filters.zipIdx [b] := by
    rw [hp]
    exact .cons hb .nil
  obtain ⟨s, hs⟩ : ∃ s, StatementOf p s [b] := ⟨⟨_, _, _⟩, rfl, hfilters, rfl, rfl⟩
  exact ⟨s, Statement.ofPlan_eq_ok.mpr ⟨[b], hs⟩, hs⟩

/-- A plan without a limit whose filter is within the limits is run, and all records with a row that satisfies
the filter's condition come out, in the order of their keys. -/
theorem plainResult_single (hp : p.filters = [f]) (hlimit : Plan.positive p.limit = none)
    (ht : f.field.target? = some t) (hb : condition? 0 f = some b) (hfits : f.Fits t) (hix : ix.lost = [])
    (hkeyed : KeyedRecords ix) : ∃ o, plainResult ix p = .ok o ∧
      o.recordIds.Pairwise (· < ·) ∧
      ∃ bound : String → Cell, (∀ e ∈ b.parameters, bound e.1 = e.2.cell) ∧
        ∀ key, key ∈ o.recordIds ↔ ∃ r ∈ ix.records, r.key = .text key ∧
          ∃ row ∈ rowsOf ix r t.table, b.condition.truth bound row = some true := by
  obtain ⟨s, hs, hstatement⟩ := statementOf_single hp hb
  have hbound : ∀ e ∈ b.parameters, s.bound e.1 = e.2.cell :=
    fun e he => hstatement.bound_parameter (List.mem_singleton_self b) he
  have hrunnable := runnable_single hstatement hb (depth_of_fits ht hb hfits) (flaw?_of_fits ht hb hfits hbound)
  have honce := executeOnce_of_runnable hs hrunnable hix
  have hids : (outcome p s (s.results ix) false).recordIds = (allCandidates s ix p).map (·.recordId) := by
    rw [Outcome.recordIds, candidates_unlimited hstatement hlimit hkeyed]
  have htable : b.condition.table = t.table := by
    rw [(condition_shape hb).1, Filter.table_of_target ht]
  refine ⟨_, by rw [plainResult, honce]; rfl, ?_, s.bound, hbound, fun key => ?_⟩
  · rw [hids, List.pairwise_map]
    exact sorted_allCandidates hkeyed
  · rw [hids, recordId_mem_allCandidates hkeyed]
    simp only [isSome_first?_single hstatement.conditions, htable]

/-- A plan whose filter has a set with too many members is refused. -/
theorem plainResult_tooMany (hp : p.filters = [f]) (ht : f.field.target? = some t)
    (hb : condition? 0 f = some b) {values : List String} (hvalue : f.value = .set values)
    (hmany : t.mostMembers f.negate < values.length) (hix : ix.lost = []) :
    ∃ sql parameters, plainResult ix p = .error (.query sql parameters Statement.Failure.tooDeep.message) := by
  obtain ⟨s, hs, hstatement⟩ := statementOf_single hp hb
  have hdeep : Statement.greatestDepth < s.depth := by
    have hdepth := depth_of_tooMany ht hb hvalue hmany
    have hconditions : s.conditions = [b.condition] := hstatement.conditions
    rw [depth_single hconditions]
    unfold Statement.greatestDepth at *
    split <;> omega
  have hrun : s.run ix = .error .tooDeep := by
    have hhas : (s.relations.find? fun r => !ix.has r) = none := by simp [Index.has, hix]
    rw [Statement.run, Statement.failure?, hhas]
    simp only [if_pos hdeep]
  refine ⟨s.sql, s.parametersText, ?_⟩
  rw [plainResult, executeOnce_eq, hs]
  simp only [hrun]
  rfl

end Index
end Catalogue
