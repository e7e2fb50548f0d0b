import Catalogue.Proofs.Index.Execution
import Catalogue.Proofs.Index.Order
import Catalogue.Terminal.Render

/-! Plans as questions to an index. A plan finds a record if each table that it looks
at has a row of the record that satisfies all its filters on that table
(`Plan.Finds`). `execute_answers`: what is returned is every record that the plan
finds, once, in the order of the bytes of their keys, up to the plan's limit. -/
namespace Catalogue

open Text.Utf8 (encode)
open Index.Cell (compareBytes)

namespace Index

/-! ### Indexes -/

/-- An index that has lost nothing: the records' keys are different texts, and all other cells are
nothing or of their columns' types. It holds no more records than can be numbered. -/
structure WellFormed (ix : Index) : Prop where
  complete : ix.lost = []
  keyed : KeyedRecords ix
  numbered : ix.records.length ≤ Statement.greatestLimit
  typed : ∀ t, ∀ row ∈ ix.rows t, t.Admits row

/-! ### Answers -/

/-- Whether candidates are the records that a plan finds, each once, in the order of the bytes of
their keys. -/
structure Answers (ix : Index) (p : Plan) (cs : List Candidate) : Prop where
  found : ∀ key, key ∈ cs.map (·.recordId) ↔ ∃ r ∈ ix.records, r.key = .text key ∧ p.Finds ix r
  ascending : cs.Pairwise fun a b => compareBytes (encode a.recordId) (encode b.recordId) = .lt

/-- The first of some candidates, as many as a plan's limit allows. -/
def limited (p : Plan) (cs : List Candidate) : List Candidate :=
  match Plan.positive p.limit with
  | some n => cs.take n
  | none => cs

/-- The number of candidates that a result in JSON gives. -/
def totalCount? : Json → Option Json
  | .obj entries =>
    match Entries.get? "candidates" entries with
    | some (.obj set) => Entries.get? "total_count" set
    | _ => none
  | _ => none

theorem totalCount?_resultJson (r : QueryResult) (generatedAt : String) (milliseconds : Nat) :
    totalCount? (Terminal.resultJson r generatedAt milliseconds) =
      some (.nat r.outcome.candidates.length) := rfl

/-- A plan without filters finds every record. -/
theorem finds_of_no_filters {p : Plan} (h : p.filters = []) (ix : Index) (r : Record) :
    p.Finds ix r := by
  intro t ht
  obtain ⟨f, hf, -⟩ := Plan.mem_tables.mp ht
  rw [h] at hf
  cases hf

/-! ### Results -/

section Results
variable {ix : Index} {p : Plan} {s : Statement}

theorem length_allResults_le (hix : KeyedRecords ix) :
    (s.allResults ix).length ≤ ix.records.length := by
  have hkeys : ∀ m ∈ ix.records.filterMap fun r => first? (s.matchesOf ix r), m.HasKey := by
    intro m hm
    obtain ⟨r, hr, hfirst⟩ := List.mem_filterMap.mp hm
    exact hasKey_of_mem_allResults (s := s) hix ((mem_allResults hix).mpr ⟨r, hr, hfirst⟩)
  rw [Statement.allResults, (sortByKey_spec hkeys).1.length_eq]
  exact List.length_filterMap_le _ _

/-- The candidates of all results, in their order. -/
def allCandidates (s : Statement) (ix : Index) (p : Plan) : List Candidate :=
  (s.allResults ix).map (Match.candidate p)

theorem sorted_allCandidates (hix : KeyedRecords ix) :
    (allCandidates s ix p).Pairwise fun a b => a.recordId < b.recordId := by
  rw [allCandidates, List.pairwise_map]
  refine (ascending_allResults hix).imp_of_mem fun {a b} ha hb h => ?_
  rw [recordId_candidate p (hasKey_of_mem_allResults hix ha),
    recordId_candidate p (hasKey_of_mem_allResults hix hb)]
  exact h

/-- Results that are in their order are the candidates that come out. -/
theorem candidates_of_sublist {ms : List Match} (hix : KeyedRecords ix) (h : ms.Sublist (s.allResults ix))
    (retried : Bool) : (outcome p s ms retried).candidates = ms.map (Match.candidate p) := by
  refine sortCandidates_of_sorted ?_
  have hall := (sorted_allCandidates (s := s) (p := p) hix).imp fun h => h.le
  exact hall.sublist (h.map _)

/-- A statement's results, up to the limit, are the candidates that come out. -/
theorem candidates_outcome {bs : List BoundCondition} (h : StatementOf p s bs) (hix : ix.WellFormed)
    (retried : Bool) :
    (outcome p s (s.results ix) retried).candidates = limited p (allCandidates s ix p) := by
  rw [Statement.results, h.limit?_eq, limited]
  cases Plan.positive p.limit with
  | none => exact candidates_of_sublist hix.keyed (.refl _) retried
  | some n =>
    have hle := (length_allResults_le (s := s) hix.keyed).trans hix.numbered
    have htake : (s.allResults ix).take (min n Statement.greatestLimit) = (s.allResults ix).take n := by
      rw [List.take_eq_take_iff]
      omega
    show (outcome p s ((s.allResults ix).take (min n Statement.greatestLimit)) retried).candidates = _
    rw [htake, candidates_of_sublist hix.keyed (List.take_sublist _ _), List.map_take]
    rfl

/-- Without a limit all results come out. -/
theorem candidates_unlimited {bs : List BoundCondition} (h : StatementOf p s bs)
    (hlimit : Plan.positive p.limit = none) (hix : KeyedRecords ix) (retried : Bool) :
    (outcome p s (s.results ix) retried).candidates = allCandidates s ix p := by
  rw [Statement.results, h.limit?_eq, hlimit]
  exact candidates_of_sublist hix (.refl _) retried

/-- The records of which a combination is kept are those that come out. -/
theorem recordId_mem_allCandidates (hix : KeyedRecords ix) {key : String} :
    key ∈ (allCandidates s ix p).map (·.recordId) ↔
      ∃ r ∈ ix.records, r.key = .text key ∧ (first? (s.matchesOf ix r)).isSome := by
  constructor
  · intro hkey
    obtain ⟨c, hc, rfl⟩ := List.mem_map.mp hkey
    obtain ⟨m, hm, rfl⟩ := List.mem_map.mp hc
    have hhas := hasKey_of_mem_allResults hix hm
    obtain ⟨r, hr, hfirst⟩ := (mem_allResults hix).mp hm
    obtain rfl := record_of_first? hfirst
    refine ⟨m.record, hr, ?_, by rw [hfirst]; rfl⟩
    rw [recordId_candidate p hhas]
    exact hhas
  · rintro ⟨r, hr, hkey, hsome⟩
    obtain ⟨m, hfirst⟩ := Option.isSome_iff_exists.mp hsome
    have hm : m ∈ s.allResults ix := (mem_allResults hix).mpr ⟨r, hr, hfirst⟩
    have hhas := hasKey_of_mem_allResults hix hm
    refine List.mem_map.mpr ⟨m.candidate p, List.mem_map_of_mem hm, ?_⟩
    rw [recordId_candidate p hhas]
    have hsame : Cell.text m.keyText = .text key := by
      rw [← hhas, record_of_first? hfirst, hkey]
    exact Cell.text.inj hsame

/-- All candidates of a plan's statement are what the plan asks for. -/
theorem answers_allCandidates {bs : List BoundCondition} (h : StatementOf p s bs)
    (hix : ix.WellFormed) : ix.Answers p (allCandidates s ix p) := by
  refine ⟨fun key => ?_, (sorted_allCandidates hix.keyed).imp fun h => Text.Utf8.compareBytes_encode h⟩
  simp only [recordId_mem_allCandidates hix.keyed, h.first?_isSome hix.typed]

/-- Statements of plans with the same filters have the same results, but for their limits. -/
theorem allResults_congr {q : Plan} {u : Statement} {bs cs : List BoundCondition}
    (h : StatementOf p s bs) (hu : StatementOf q u cs) (hfilters : q.filters = p.filters)
    (hix : ix.WellFormed) : u.allResults ix = s.allResults ix := by
  have htables : u.tables = s.tables := by
    rw [hu.tables_eq, h.tables_eq, Plan.tables, Plan.tables, hfilters]
  have hmatches : ∀ r, u.matchesOf ix r = s.matchesOf ix r := by
    intro r
    unfold Statement.matchesOf
    rw [htables]
    refine List.filter_congr fun m hm => ?_
    have hu' := hu.mem_matchesOf hix.typed (r := r) (m := m)
    have hs' := h.mem_matchesOf hix.typed (r := r) (m := m)
    have hsame : m ∈ u.matchesOf ix r ↔ m ∈ s.matchesOf ix r := by
      rw [hu', hs']
      simp only [Plan.tables, Plan.Accepts, hfilters]
    unfold Statement.matchesOf at hsame
    rw [htables, List.mem_filter, List.mem_filter] at hsame
    exact Bool.eq_iff_iff.mpr ⟨fun ha => (hsame.mp ⟨hm, ha⟩).2, fun ha => (hsame.mpr ⟨hm, ha⟩).2⟩
  unfold Statement.allResults
  simp only [hmatches]

end Results

/-! ### Runs of the executor -/

section Execute
variable {σ : Type} {ix : Index} {p : Plan} {hook : Option (RetryHook σ)} {hintLimit : Nat} {st st' : σ}

/-- Running a plan answers it. A plan whose statement can be run has an outcome. An outcome is that
of the plan, or of the one that a retry hook gave, and has all records that the plan finds, each
once, in the order of the bytes of their keys; a limit keeps the first of what the plan returns
without one. -/
theorem execute_answers {s : Statement} (hs : Statement.ofPlan p = .ok s) (hix : ix.WellFormed) :
    (s.Runnable → ∃ o st', execute ix hook hintLimit p st = (.ok o, st')) ∧
      ∀ o st', execute ix hook hintLimit p st = (.ok o, st') →
        (o.retried = false → o.plan = p) ∧ (hook = none → o.retried = false) ∧
        (∃ all, ix.Answers o.plan all ∧ o.candidates = limited o.plan all ∧
          ∀ u st'', execute ix none hintLimit (o.plan.withLimit none) st = (.ok u, st'') →
            u.candidates = all) ∧
        (o.plan.filters = [] → ∀ r ∈ ix.records, o.plan.Finds ix r) ∧
        ∀ r generatedAt milliseconds, r.outcome = o →
          totalCount? (Terminal.resultJson r generatedAt milliseconds) =
            some (.nat o.candidates.length) := by
  refine ⟨fun hrun => execute_of_executeOnce (executeOnce_of_runnable hs hrun hix.complete), ?_⟩
  intro o st' ho
  obtain ⟨hplan, hretried, u, ms, honce, houtcome⟩ := execute_eq_ok ho
  obtain ⟨hu, rfl⟩ := executeOnce_eq_ok honce
  obtain ⟨bs, hbs⟩ := statementOf_ofPlan hu
  refine ⟨hplan, hretried, ⟨allCandidates u ix o.plan, answers_allCandidates hbs hix, ?_, ?_⟩,
    fun hnone r _ => finds_of_no_filters hnone ix r, ?_⟩
  · rw [houtcome]
    exact candidates_outcome hbs hix o.retried
  · intro v st'' hv
    obtain ⟨w, ms, hwonce, rfl⟩ := execute_none_eq_ok hv
    obtain ⟨hw, rfl⟩ := executeOnce_eq_ok hwonce
    obtain ⟨cs, hcs⟩ := statementOf_ofPlan hw
    rw [candidates_outcome hcs hix, allCandidates, allResults_congr hbs hcs rfl hix]
    rfl
  · rintro r generatedAt milliseconds rfl
    exact totalCount?_resultJson r generatedAt milliseconds

/-- Three records, of which one has two imprints and one has nothing but its key. One imprint
belongs to no record. -/
def shelf : Index where
  records := [⟨1, .text "b"⟩, ⟨2, .text "a"⟩, ⟨3, .text "c"⟩]
  imprints := [
    ⟨1, [("record_id", .int 1), ("date_start", .int 1500), ("date_end", .int 1510)]⟩,
    ⟨2, [("record_id", .int 1), ("date_start", .int 1550), ("date_end", .null)]⟩,
    ⟨3, [("record_id", .int 2), ("date_start", .int 1520), ("date_end", .int 1520)]⟩,
    ⟨4, [("record_id", .int 9), ("date_start", .int 1500), ("date_end", .int 1500)]⟩]
  languages := [
    ⟨1, [("record_id", .int 1), ("code", .text "HEB")]⟩,
    ⟨2, [("record_id", .int 2), ("code", .text "lat")]⟩,
    ⟨3, [("record_id", .int 2), ("code", .text "heb")]⟩]
  titles := []
  subjects := []
  agents := []
  lost := []

/-- Asks for one book of the sixteenth century in some language but Latin. -/
def notLatin : Plan :=
  { Plan.ofText "" with
    filters := [⟨.year, .range, .range 1500 1599, false, none, none⟩,
      ⟨.language, .equals, .text "Lat", true, none, none⟩]
    limit := some 1 }

/-- The statement of `notLatin`. -/
def notLatinStatement : Statement where
  conditions := [⟨.imprints, .overlaps ":f0_0" ":f0_1", false⟩,
    ⟨.languages, .equals [⟨.languages, "code", true⟩] [":f1"], true⟩]
  limited := true
  parameters := [(":f0_0", .int 1500), (":f0_1", .int 1599), (":f1", .text "lat"), (":limit", .int 1)]

theorem wellFormed_shelf : shelf.WellFormed where
  complete := rfl
  keyed := ⟨by simp [shelf], by decide⟩
  numbered := by decide
  typed := by
    intro t
    cases t <;> simp [rows, shelf, Table.Admits, Table.columns, Row.cell, Affinity.Admits,
      Column.integer, Column.text, Column.real, Column.always, Column.defaulting, Entries.get?]

theorem runnable_notLatinStatement : notLatinStatement.Runnable :=
  ⟨by decide, by decide, by decide⟩

theorem execute_answers_shelf : ∃ o : Outcome,
    execute shelf (none : Option (RetryHook Unit)) 1 notLatin () = (.ok o, ()) ∧
      o.recordIds = ["a"] ∧ ∃ all, shelf.Answers o.plan all ∧ o.candidates = limited o.plan all := by
  have hs : Statement.ofPlan notLatin = .ok notLatinStatement := by decide
  obtain ⟨hruns, hanswers⟩ :=
    @execute_answers Unit shelf notLatin none 1 () notLatinStatement hs wellFormed_shelf
  obtain ⟨o, ⟨⟩, ho⟩ := hruns runnable_notLatinStatement
  have hids : (execute shelf (none : Option (RetryHook Unit)) 1 notLatin ()).1.toOption.map
      Outcome.recordIds = some ["a"] := by decide
  rw [ho] at hids
  obtain ⟨-, -, ⟨all, hall, hlimited, -⟩, -⟩ := hanswers o () ho
  exact ⟨o, ho, Option.some.inj hids, all, hall, hlimited⟩

end Execute
end Index
end Catalogue
