import Catalogue.Proofs.Index.Retry
import Catalogue.Service.Basic

/-! Warnings. A plan without filters has one warning, and any other exactly those that its
filters give rise to, in the order of the filters and, for one filter, of the kinds
(`warnsOf_ofFilters`). The warnings of a result are those of the plan that it is of, be it
the plan that was to be run or one that a retry gave, and one more if nothing was found
(`run_warns`). -/
namespace Catalogue

open Model (SubjectHint)
open Number

/-! ### What is warned about -/

/-- Whether a filter gives rise to a warning of a kind: it was inferred with a confidence below 0.7; its
years are more than 200 apart; it looks for one word of fewer than five characters in subjects or
titles. -/
def Filter.Alarms (f : Filter) : WarningCode → Prop
  | .lowConfidence => ∃ x, f.confidence = some x ∧ Binary64.less x (Binary64.ofDecimal false 7 (-1)) = true
  | .broadDateRange => ∃ first last, f.value = .range first last ∧ 200 < last - first
  | .vagueFilter => (f.field = .subject ∨ f.field = .title) ∧
      ∃ s w, f.value = .text s ∧ Text.words s.toList = [w] ∧ w.length < 5
  | .emptyFilters | .zeroResults => False

/-- The place of a kind among the warnings about one filter. -/
def WarningCode.rank : WarningCode → Nat
  | lowConfidence => 0
  | broadDateRange => 1
  | vagueFilter => 2
  | emptyFilters | zeroResults => 3

namespace Warning

/-- Whether a warning comes before another: it is about an earlier filter, or about the same and of an
earlier kind. -/
def Before (v w : Warning) : Prop :=
  ∃ i j, v.filterIndex = some i ∧ w.filterIndex = some j ∧ (i < j ∨ i = j ∧ v.code.rank < w.code.rank)

/-- Whether warnings are exactly those that filters from position `k` on give rise to, in their order. -/
structure WarnsOf (k : Nat) (fs : List Filter) (ws : List Warning) : Prop where
  /-- There is a warning of a kind about a position exactly if the filter there gives rise to it. -/
  alarms : ∀ code i, (∃ w ∈ ws, w.code = code ∧ w.filterIndex = some (k + i)) ↔
    ∃ f, fs[i]? = some f ∧ f.Alarms code
  /-- Every warning is about one of the filters. -/
  positioned : ∀ w ∈ ws, ∃ i < fs.length, w.filterIndex = some (k + i)
  ordered : ws.Pairwise Before

/-! ### One filter -/

/-- Whether there is a warning of a kind about position `i` exactly if a filter gives rise to it. -/
structure Flags (i : Nat) (f : Filter) (code : WarningCode) (w? : Option Warning) : Prop where
  isSome_iff : w?.isSome = true ↔ f.Alarms code
  about : ∀ w, w? = some w → w.code = code ∧ w.filterIndex = some i

section One
variable {i : Nat} {f : Filter} {code : WarningCode}

theorem flags_none (h : ¬f.Alarms code) : Flags i f code none := ⟨by simp [h], nofun⟩

theorem flags_ite {P : Prop} [Decidable P] (h : P ↔ f.Alarms code) (message : String) :
    Flags i f code (if P then some ⟨code, message, some i⟩ else none) := by
  by_cases hP : P
  · rw [if_pos hP]
    refine ⟨by simp [← h, hP], ?_⟩
    rintro w ⟨⟩
    exact ⟨rfl, rfl⟩
  · rw [if_neg hP]
    exact flags_none (mt h.mpr hP)

theorem flags_lowConfidence (i : Nat) (f : Filter) : Flags i f .lowConfidence (lowConfidence? i f) := by
  unfold lowConfidence?
  cases hx : f.confidence with
  | none => exact flags_none (by simp [Filter.Alarms, hx])
  | some x => exact flags_ite (by simp [Filter.Alarms, hx, lowConfidence]) _

theorem flags_broadRange (i : Nat) (f : Filter) : Flags i f .broadDateRange (broadRange? i f) := by
  unfold broadRange? Filter.bounds?
  cases hv : f.value with
  | text | set => exact flags_none (by simp [Filter.Alarms, hv])
  | range first last => exact flags_ite (by simp [Filter.Alarms, hv, broadYears]) _

theorem flags_vague (i : Nat) (f : Filter) : Flags i f .vagueFilter (vague? i f) := by
  unfold vague? Filter.text?
  cases hv : f.value with
  | range | set => exact flags_none (by simp [Filter.Alarms, hv])
  | text s =>
    simp only [Option.bind_eq_bind, Option.bind_some]
    by_cases hfield : f.field = .subject ∨ f.field = .title
    · rw [if_pos (by simpa using hfield)]
      cases hws : Text.words s.toList with
      | nil => exact flags_none (by simp [Filter.Alarms, hv, hws])
      | cons word rest =>
        cases rest with
        | nil => exact flags_ite (by simp [Filter.Alarms, hv, hws, hfield, vagueLength]) _
        | cons => exact flags_none (by simp [Filter.Alarms, hv, hws])
    · rw [if_neg (by simpa using hfield)]
      exact flags_none fun h => hfield h.1

/-- The warning of a kind about a filter. -/
def ofKind? (i : Nat) (f : Filter) : WarningCode → Option Warning
  | .lowConfidence => lowConfidence? i f
  | .broadDateRange => broadRange? i f
  | .vagueFilter => vague? i f
  | .emptyFilters | .zeroResults => none

theorem flags_ofKind (i : Nat) (f : Filter) (code : WarningCode) : Flags i f code (ofKind? i f code) := by
  cases code with
  | lowConfidence => exact flags_lowConfidence i f
  | broadDateRange => exact flags_broadRange i f
  | vagueFilter => exact flags_vague i f
  | emptyFilters | zeroResults => exact flags_none id

theorem mem_ofFilter {w : Warning} : w ∈ ofFilter i f ↔ ∃ code, ofKind? i f code = some w := by
  simp only [ofFilter, List.mem_filterMap, List.mem_cons, List.not_mem_nil, or_false, id]
  constructor
  · rintro ⟨_, rfl | rfl | rfl, h⟩
    · exact ⟨.lowConfidence, h⟩
    · exact ⟨.broadDateRange, h⟩
    · exact ⟨.vagueFilter, h⟩
  · rintro ⟨code, h⟩
    cases code with
    | lowConfidence => exact ⟨_, .inl rfl, h⟩
    | broadDateRange => exact ⟨_, .inr (.inl rfl), h⟩
    | vagueFilter => exact ⟨_, .inr (.inr rfl), h⟩
    | emptyFilters | zeroResults => cases h

/-- A warning about a filter is about its position, and the filter gives rise to its kind. -/
theorem of_mem_ofFilter {w : Warning} (hw : w ∈ ofFilter i f) : w.filterIndex = some i ∧ f.Alarms w.code := by
  obtain ⟨code, hcode⟩ := mem_ofFilter.mp hw
  have hflags := flags_ofKind i f code
  obtain ⟨rfl, hi⟩ := hflags.about w hcode
  exact ⟨hi, hflags.isSome_iff.mp (by rw [hcode]; rfl)⟩

theorem exists_mem_ofFilter (h : f.Alarms code) : ∃ w ∈ ofFilter i f, w.code = code ∧ w.filterIndex = some i := by
  have hflags := flags_ofKind i f code
  obtain ⟨w, hw⟩ := Option.isSome_iff_exists.mp (hflags.isSome_iff.mpr h)
  exact ⟨w, mem_ofFilter.mpr ⟨code, hw⟩, hflags.about w hw⟩

/-- The warnings about one filter come in the order of their kinds. -/
theorem pairwise_ofFilter (i : Nat) (f : Filter) : (ofFilter i f).Pairwise Before := by
  have hbefore {c d : WarningCode} (hcd : c.rank < d.rank) :
      ∀ v, id (ofKind? i f c) = some v → ∀ w, id (ofKind? i f d) = some w → Before v w := by
    intro v hv w hw
    obtain ⟨rfl, hvi⟩ := (flags_ofKind i f c).about v hv
    obtain ⟨rfl, hwi⟩ := (flags_ofKind i f d).about w hw
    exact ⟨i, i, hvi, hwi, .inr ⟨rfl, hcd⟩⟩
  rw [ofFilter, List.pairwise_filterMap]
  simp only [List.pairwise_cons, List.mem_cons, List.not_mem_nil, or_false, forall_eq_or_imp, forall_eq,
    false_imp_iff, implies_true, List.Pairwise.nil, and_true]
  exact ⟨⟨hbefore (c := .lowConfidence) (d := .broadDateRange) (by decide),
    hbefore (c := .lowConfidence) (d := .vagueFilter) (by decide)⟩,
    hbefore (c := .broadDateRange) (d := .vagueFilter) (by decide)⟩

/-- The warnings about one filter are those that it gives rise to. -/
theorem warnsOf_ofFilter (k : Nat) (f : Filter) : WarnsOf k [f] (ofFilter k f) := by
  refine ⟨fun code i => ⟨?_, ?_⟩, fun w hw => ⟨0, by simp, (of_mem_ofFilter hw).1⟩, pairwise_ofFilter k f⟩
  · rintro ⟨w, hw, rfl, hi⟩
    obtain ⟨hk, halarms⟩ := of_mem_ofFilter hw
    obtain rfl : i = 0 := by
      have := Option.some.inj (hk.symm.trans hi)
      omega
    exact ⟨f, rfl, halarms⟩
  · rintro ⟨g, hg, halarms⟩
    cases i with
    | zero =>
      obtain rfl := Option.some.inj hg
      exact exists_mem_ofFilter halarms
    | succ => cases hg

end One

/-! ### All filters -/

/-- The warnings about a first filter, and then those about the others. -/
theorem WarnsOf.cons {k : Nat} {f : Filter} {fs : List Filter} {vs ws : List Warning} (hf : WarnsOf k [f] vs)
    (hfs : WarnsOf (k + 1) fs ws) : WarnsOf k (f :: fs) (vs ++ ws) := by
  have hfirst : ∀ v ∈ vs, v.filterIndex = some k := by
    intro v hv
    obtain ⟨i, hi, hindex⟩ := hf.positioned v hv
    obtain rfl : i = 0 := by simpa using hi
    exact hindex
  have hlater : ∀ w ∈ ws, ∃ i < fs.length, w.filterIndex = some (k + (i + 1)) := by
    intro w hw
    obtain ⟨i, hi, hindex⟩ := hfs.positioned w hw
    exact ⟨i, hi, hindex.trans (congrArg some (by omega))⟩
  refine ⟨fun code i => ?alarms, fun w hw => ?positioned, ?ordered⟩
  case alarms =>
    cases i with
    | zero =>
      refine Iff.trans ⟨?_, ?_⟩ (hf.alarms code 0)
      · rintro ⟨w, hw, hcode, hindex⟩
        rcases List.mem_append.mp hw with hw | hw
        · exact ⟨w, hw, hcode, hindex⟩
        · obtain ⟨j, -, hj⟩ := hlater w hw
          have := Option.some.inj (hj.symm.trans hindex)
          omega
      · exact fun ⟨w, hw, h⟩ => ⟨w, List.mem_append_left _ hw, h⟩
    | succ i =>
      have hnext := hfs.alarms code i
      rw [show k + 1 + i = k + (i + 1) by omega] at hnext
      refine Iff.trans ⟨?_, ?_⟩ hnext
      · rintro ⟨w, hw, hcode, hindex⟩
        rcases List.mem_append.mp hw with hw | hw
        · have := Option.some.inj ((hfirst w hw).symm.trans hindex)
          omega
        · exact ⟨w, hw, hcode, hindex⟩
      · exact fun ⟨w, hw, h⟩ => ⟨w, List.mem_append_right _ hw, h⟩
  case positioned =>
    rcases List.mem_append.mp hw with hw | hw
    · exact ⟨0, by simp, hfirst w hw⟩
    · obtain ⟨i, hi, hindex⟩ := hlater w hw
      exact ⟨i + 1, by simpa using hi, hindex⟩
  case ordered =>
    refine List.pairwise_append.mpr ⟨hf.ordered, hfs.ordered, fun v hv w hw => ?_⟩
    obtain ⟨i, -, hindex⟩ := hlater w hw
    exact ⟨_, _, hfirst v hv, hindex, .inl (by omega)⟩

/-- The warnings about filters are those that they give rise to. -/
theorem warnsOf_ofFilters (k : Nat) (fs : List Filter) : WarnsOf k fs (ofFilters k fs) := by
  induction fs generalizing k with
  | nil => exact ⟨by simp [ofFilters], by simp [ofFilters], .nil⟩
  | cons f rest ih => exact (warnsOf_ofFilter k f).cons (ih (k + 1))

/-- The warning about a plan without filters is the only one, and no other plan has it. -/
theorem ofPlan_eq_noFilters {p : Plan} : ofPlan p = [noFilters] ↔ p.filters = [] := by
  constructor
  · intro h
    by_contra hne
    rw [ofPlan, if_neg (by simpa using hne)] at h
    obtain ⟨i, -, hi⟩ := (warnsOf_ofFilters 0 p.filters).positioned noFilters (h ▸ List.mem_singleton_self _)
    cases hi
  · intro h
    simp [ofPlan, h]

theorem warnsOf_ofPlan {p : Plan} (h : p.filters ≠ []) : WarnsOf 0 p.filters (ofPlan p) := by
  rw [ofPlan, if_neg (by simpa using h)]
  exact warnsOf_ofFilters 0 p.filters

/-- Whatever the plan, a position that a warning gives is that of one of its filters. -/
theorem index_lt_of_mem_ofPlan {p : Plan} {w : Warning} (hw : w ∈ ofPlan p) {i : Nat} (hi : w.filterIndex = some i) :
    i < p.filters.length := by
  by_cases h : p.filters = []
  · rw [ofPlan_eq_noFilters.mpr h, List.mem_singleton] at hw
    rw [hw] at hi
    cases hi
  · obtain ⟨j, hj, hindex⟩ := (warnsOf_ofPlan h).positioned w hw
    have := Option.some.inj (hindex.symm.trans hi)
    omega

end Warning

/-! ### Results -/

namespace Service

open Model.Compiler (bind_apply pure_apply)

variable {σ : Type} {s : Service σ} {ix : Index} {p : Plan} {facets : Bool} {st : σ} {r : QueryResult}

/-- A result is of an outcome of the plan, with the warnings that go with it. -/
theorem run_eq_ok (h : (s.run ix p facets st).1 = .ok r) :
    (Index.execute ix s.retry s.subjectHints p st).1 = .ok r.outcome ∧
      r.warnings = warnings (Warning.ofPlan p) r.outcome := by
  unfold run at h
  rw [bind_apply] at h
  cases hrun : (Index.execute ix s.retry s.subjectHints p st).1 with
  | error e =>
    rw [hrun] at h
    cases h
  | ok o =>
    simp only [hrun, pure_apply] at h
    cases hcounts : s.facets ix o facets with
    | error e =>
      rw [hcounts] at h
      cases h
    | ok counts =>
      rw [hcounts] at h
      cases h
      exact ⟨rfl, rfl⟩

/-- How the warnings of a result of running a plan go with the plan that the result is of. -/
structure Warns (s : Service σ) (ix : Index) (p : Plan) (st : σ) (r : QueryResult) : Prop where
  /-- They are those about the result's plan, and one more exactly if nothing was found. -/
  warnings : r.warnings =
    Warning.ofPlan r.outcome.plan ++ if r.outcome.candidates = [] then [Warning.noResults] else []
  /-- The plan is the one that was to be run, or it came from the hook. -/
  kept : r.outcome.retried = false → r.outcome.plan = p
  retried : r.outcome.retried = true → ∃ hook hints, s.retry = some hook ∧
    ix.subjectHints? (max s.subjectHints 1) = some hints ∧ (hook p hints st).1 = .ok r.outcome.plan
  /-- A position is that of a filter of the result's plan. -/
  positioned : ∀ w ∈ r.warnings, ∀ i, w.filterIndex = some i → i < r.outcome.plan.filters.length

theorem warns_of_run (h : (s.run ix p facets st).1 = .ok r) : Warns s ix p st r := by
  obtain ⟨ho, hwarnings⟩ := run_eq_ok h
  obtain ⟨hkept, hunhooked, -⟩ := Index.execute_eq_ok (Prod.ext ho rfl)
  have heq : r.warnings =
      Warning.ofPlan r.outcome.plan ++ if r.outcome.candidates = [] then [Warning.noResults] else [] := by
    simp only [hwarnings, warnings, List.isEmpty_iff]
    cases hretried : r.outcome.retried with
    | false => simp [hkept hretried]
    | true => simp
  refine ⟨heq, hkept, fun hretried => ?retried, fun w hw i hi => ?positioned⟩
  case retried =>
    cases hhook : s.retry with
    | none =>
      rw [hunhooked hhook] at hretried
      cases hretried
    | some hook =>
      rw [hhook] at ho
      obtain ⟨hints, hhints, hanswer⟩ := Index.of_retried ho hretried
      exact ⟨hook, hints, rfl, hhints, hanswer⟩
  case positioned =>
    rw [heq, List.mem_append] at hw
    rcases hw with hw | hw
    · exact Warning.index_lt_of_mem_ofPlan hw hi
    · -- The warning about nothing found is about no filter.
      have : w = Warning.noResults := by
        split at hw
        · exact List.mem_singleton.mp hw
        · cases hw
      rw [this] at hi
      cases hi

/-- Warnings are about the plan that was run: those that its filters give rise to, where years are never too
far apart for a word of 64 bits, or the one about a plan without filters, and one more if nothing was found. -/
theorem run_warns :
    (∀ q : Plan, (Warning.ofPlan q = [Warning.noFilters] ↔ q.filters = []) ∧
      (q.filters ≠ [] → Warning.WarnsOf 0 q.filters (Warning.ofPlan q))) ∧
    (∀ first last : Int, int32.holds first → int32.holds last → int64.holds (last - first)) ∧
    ∀ {σ : Type} (s : Service σ) (ix : Index) (p : Plan) (facets : Bool) (st : σ) (r : QueryResult),
      (s.run ix p facets st).1 = .ok r → Warns s ix p st r := by
  refine ⟨fun q => ⟨Warning.ofPlan_eq_noFilters, Warning.warnsOf_ofPlan⟩, fun first last hfirst hlast => ?_,
    fun s ix p facets st r h => warns_of_run h⟩
  rw [IntRange.holds_iff] at hfirst hlast ⊢
  simp only [int32, int64] at hfirst hlast ⊢
  omega

/-- A plan with a doubtful subject finds nothing, and the one that takes its place is warned about instead. -/
theorem run_warns_gold :
    let ix := { Index.empty with
      records := [⟨1, .text "r"⟩], subjects := [⟨1, [("record_id", .int 1), ("value", .text "Gold")]⟩] }
    let asking (s : String) (confidence : Option Binary64) :=
      (Plan.ofText "").withFilters [⟨.subject, .equals, .text s, false, confidence, none⟩]
    let hook : RetryHook Unit := fun _ hints => return .ok (asking ((hints.map (·.value)).headD "") none)
    let s := { heuristic with retry := some hook }
    let p := asking "mercury" (some (Binary64.ofDecimal false 5 (-1)))
    ∃ r, (s.run ix p true ()).1 = .ok r ∧ Warns s ix p () r ∧
      Warning.WarnsOf 0 p.filters (Warning.ofPlan p) ∧ int64.holds (2147483647 - -2147483648) ∧
      (Warning.ofPlan p).map (·.code) = [.lowConfidence] ∧
      r.warnings.map (fun w => (w.code, w.filterIndex)) = [(.vagueFilter, some 0)] := by
  intro ix asking hook s p
  obtain ⟨hplans, hyears, hruns⟩ := run_warns
  have hcodes : (s.run ix p true ()).1.toOption.map (·.warnings.map fun w => (w.code, w.filterIndex)) =
      some [(.vagueFilter, some 0)] := by decide +kernel
  have hdoubtful : (Warning.ofPlan p).map (·.code) = [.lowConfidence] := by decide +kernel
  cases hr : (s.run ix p true ()).1 with
  | error e =>
    rw [hr] at hcodes
    cases hcodes
  | ok r =>
    rw [hr] at hcodes
    exact ⟨r, rfl, hruns s ix p true () r hr, (hplans p).2 (by simp [p, asking, Plan.withFilters]),
      hyears _ _ (by decide) (by decide), hdoubtful, Option.some.inj hcodes⟩

end Service
end Catalogue
