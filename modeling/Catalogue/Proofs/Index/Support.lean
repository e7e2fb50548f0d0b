import Catalogue.Proofs.Filter.Rules
import Catalogue.Proofs.Index.Parameters

/-! Which plans have a statement. Every field is compared by some operators and not by
others: years as spans, all other fields as texts. A filter that keeps its rules has a
condition exactly if its operator is one of those (`isSome_condition?`), and a plan of
such filters has a statement exactly if all of them do (`translates_iff`). -/
namespace Catalogue

open Number

namespace Number

/-- An integer that is read within a range is read within a wider one. -/
theorem parseInteger?_wider {r r' : IntRange} (hlow : r'.low ≤ r.low) (hhigh : r.high ≤ r'.high) {s : String}
    {n : Int} (h : parseInteger? r s = some n) : parseInteger? r' s = some n := by
  have hholds {m : Int} (hm : r.holds m = true) : r'.holds m = true := by
    simp only [IntRange.holds, Bool.and_eq_true, decide_eq_true_eq] at hm ⊢
    omega
  have hkeep {x : Option Int} (hx : (x.bind fun m => if r.holds m then some m else none) = some n) :
      (x.bind fun m => if r'.holds m then some m else none) = some n := by
    obtain ⟨m, rfl, hm⟩ := Option.bind_eq_some_iff.mp hx
    obtain ⟨hin, rfl⟩ : r.holds m = true ∧ m = n := by simpa using hm
    simp [hholds hin]
  revert h
  unfold parseInteger?
  split <;> intro h
  · exact hkeep h
  · simp only at h ⊢
    by_cases hneg : r.low < 0
    · rw [if_pos hneg] at h
      rw [if_pos (Int.lt_of_le_of_lt hlow hneg)]
      exact hkeep h
    · rw [if_neg hneg] at h
      cases h
  · exact hkeep h

theorem parseInt64?_of_parseInt32? {s : String} (h : (parseInt32? s).isSome) : (parseInt64? s).isSome := by
  obtain ⟨n, hn⟩ := Option.isSome_iff_exists.mp h
  exact Option.isSome_iff_exists.mpr ⟨n, parseInteger?_wider (by decide) (by decide) hn⟩

end Number

/-! ### Filters -/

/-- Whether the filter's operator is one by which its field can be compared. -/
def Filter.Supported (f : Filter) : Prop :=
  if f.field = .year then f.op = .equals ∨ f.op = .range else f.op ≠ .range

instance : DecidablePred Filter.Supported := fun _ => inferInstanceAs (Decidable (ite ..))

/-- Whether some statement expresses the plan. -/
def Plan.Translates (p : Plan) : Prop := ∃ s, Index.Statement.ofPlan p = .ok s

/-- A year that is compared as one is an integer. -/
theorem Filter.Valid.year {f : Filter} (h : f.Valid) (hfield : f.field = .year) (hop : f.op = .equals) :
    ∃ s n, f.value = .text s ∧ Number.parseInt64? (Text.trim s) = some n := by
  obtain ⟨s, hvalue⟩ := h.text (.inl hop)
  have hfits := h.value
  rw [hop, hvalue] at hfits
  obtain ⟨htrimmed, hyear⟩ := hfits
  obtain ⟨n, hn⟩ := Option.isSome_iff_exists.mp (Number.parseInt64?_of_parseInt32? (hyear hfield))
  exact ⟨s, n, hvalue, by rw [htrimmed.1, hn]⟩

namespace Index

/-- A filter that keeps its rules has a condition exactly if its field can be compared as it asks. -/
theorem isSome_condition? (i : Nat) {f : Filter} (h : f.Valid) : (condition? i f).isSome ↔ f.Supported := by
  rw [Option.isSome_iff_exists]
  simp only [condition?_eq_some]
  unfold Filter.Supported
  constructor
  · rintro ⟨b, hb⟩
    cases hb with
    | years hfield hop => exact (if_pos hfield).mpr (.inr hop)
    | year hfield hop => exact (if_pos hfield).mpr (.inl hop)
    | equals htarget hop | found htarget hop | like htarget hop | oneOf htarget hop =>
      rw [if_neg (ne_year_of_target htarget), hop]
      decide
  · intro hsupported
    cases htarget : f.field.target? with
    | none =>
      have hfield := target?_eq_none.mp htarget
      rw [if_pos hfield] at hsupported
      rcases hsupported with hop | hop
      · obtain ⟨s, n, hvalue, hn⟩ := h.year hfield hop
        exact ⟨_, .year hfield hop hvalue hn⟩
      · obtain ⟨first, last, hvalue⟩ := h.bounds hop
        exact ⟨_, .years hfield hop hvalue⟩
    | some t =>
      rw [if_neg (ne_year_of_target htarget)] at hsupported
      cases hop : f.op with
      | equals =>
        obtain ⟨s, hvalue⟩ := h.text (.inl hop)
        exact ⟨_, .equals htarget hop hvalue⟩
      | contains =>
        obtain ⟨s, hvalue⟩ := h.text (.inr hop)
        cases hindexed : t.table.hasFullText with
        | true => exact ⟨_, .found htarget hop hvalue hindexed⟩
        | false => exact ⟨_, .like htarget hop hvalue hindexed⟩
      | range => exact absurd hop hsupported
      | oneOf =>
        obtain ⟨values, hvalue⟩ := h.members hop
        exact ⟨_, .oneOf htarget hop hvalue⟩

/-- A filter that keeps its rules has a condition, if it compares texts by anything but a range. -/
theorem exists_condition {i : Nat} {f : Filter} {t : Target} (h : f.Valid) (ht : f.field.target? = some t)
    (hop : f.op ≠ .range) : ∃ b, condition? i f = some b :=
  Option.isSome_iff_exists.mp ((isSome_condition? i h).mpr ((if_neg (ne_year_of_target ht)).mpr hop))

/-! ### Plans -/

theorem conditionsFrom_isOk {i : Nat} {fs : List Filter} (h : ∀ f ∈ fs, f.Valid) :
    (∃ bs, conditionsFrom i fs = .ok bs) ↔ ∀ f ∈ fs, f.Supported := by
  induction fs generalizing i with
  | nil => exact ⟨fun _ => List.forall_mem_nil _, fun _ => ⟨[], rfl⟩⟩
  | cons f rest ih =>
    obtain ⟨hf, hrest⟩ := List.forall_mem_cons.mp h
    rw [List.forall_mem_cons, ← isSome_condition? i hf, ← ih (i := i + 1) hrest]
    cases hc : condition? i f with
    | none => simp [conditionsFrom_of_none hc]
    | some b =>
      rw [conditionsFrom_of_some hc]
      cases conditionsFrom (i + 1) rest <;> simp [Except.map]

/-- A plan whose filters keep their rules has a statement exactly if every field can be compared as the
plan asks. -/
theorem translates_iff {p : Plan} (h : ∀ f ∈ p.filters, f.Valid) :
    p.Translates ↔ ∀ f ∈ p.filters, f.Supported := by
  rw [← conditionsFrom_isOk (i := 0) h]
  unfold Plan.Translates Statement.ofPlan
  cases conditionsFrom 0 p.filters <;> simp [Except.map]

end Index
end Catalogue
