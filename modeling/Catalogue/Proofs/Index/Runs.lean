import Catalogue.Index.Run
import Mathlib.Data.List.Basic

/-! When a statement runs. A visit to a table tests conditions of the statement and no
others, so a statement of which every condition can be tested comes to no flaw,
whatever the order of the visits (`flaw?_eq_none`); if it is not too large either, it
gives its results (`Runnable.run_eq`). -/
namespace Catalogue.Index.Statement

/-- Whether a statement is within the sizes that can be run, and each of its conditions can be
tested. -/
structure Runnable (s : Statement) : Prop where
  depth : s.depth ≤ greatestDepth
  parameters : s.parameters.length ≤ mostParameters
  tested : ∀ c ∈ s.conditions, c.flaw? s.bound = none

variable {s : Statement} {ix : Index}

/-! ### Visits -/

theorem mem_conditions_of_on {t : Table} {c : Condition} (h : c ∈ s.conditionsOn t) :
    c ∈ s.conditions := (List.mem_filter.mp h).1

theorem mem_conditions_of_key? {opens : Bool} {t : Table} {c : Condition}
    (h : s.key? opens t = some c) : c ∈ s.conditions := by
  simp only [key?] at h
  split at h
  · split at h <;> exact mem_conditions_of_on (List.mem_of_find?_eq_some h)
  · exact mem_conditions_of_on (List.mem_of_find?_eq_some h)

/-- What a row is tested for stands in the statement. -/
theorem mem_conditions_of_tests {opens : Bool} {t : Table} {c : Condition} (h : c ∈ s.tests opens t) :
    c ∈ s.conditions := by
  simp only [tests, List.mem_append, Option.mem_toList, List.mem_filter] at h
  rcases h with (h | h) | h
  · exact mem_conditions_of_key? h
  · exact mem_conditions_of_on h.1.1
  · exact mem_conditions_of_on h.1.1

theorem rowFlaw?_eq_none {r : Row} {cs : List Condition} (h : ∀ c ∈ cs, c.flaw? s.bound = none) :
    s.rowFlaw? r cs = none := by
  induction cs with
  | nil => rfl
  | cons c rest ih =>
    rw [rowFlaw?, h c (List.mem_cons_self ..)]
    show (if _ then _ else _) = _
    split
    · exact ih fun d hd => h d (List.mem_cons_of_mem _ hd)
    · rfl

section Tested
variable (h : ∀ c ∈ s.conditions, c.flaw? s.bound = none)
include h

theorem visitFlaw?_eq_none (opens : Bool) (t : Table) (rows : List Row) :
    s.visitFlaw? opens t rows = none := by
  have hkey : (s.key? opens t).bind (·.flaw? s.bound) = none := by
    cases hk : s.key? opens t with
    | none => rfl
    | some c => exact h c (mem_conditions_of_key? hk)
  rw [visitFlaw?, hkey, Option.none_or, List.findSome?_eq_none_iff]
  intro r _
  exact rowFlaw?_eq_none fun c hc => h c (mem_conditions_of_tests hc)

theorem recordFlaw?_eq_none (r : Record) (ts : List Table) : s.recordFlaw? ix r ts = none := by
  induction ts with
  | nil => rfl
  | cons t rest ih =>
    rw [recordFlaw?, visitFlaw?_eq_none h]
    show (if _ then _ else _) = _
    split
    · exact ih
    · rfl

theorem routeFlaw?_eq_none : s.routeFlaw? ix = none := by
  have hopening : (s.opening?.bind fun t => s.visitFlaw? true t (ix.rows t)) = none := by
    cases s.opening? with
    | none => rfl
    | some t => exact visitFlaw?_eq_none h true t _
  rw [routeFlaw?, hopening, Option.none_or, List.findSome?_eq_none_iff]
  intro r _
  exact recordFlaw?_eq_none h r _

theorem beforehand_eq_ok {cs : List Condition} (hcs : ∀ c ∈ cs, c ∈ s.conditions) :
    ∃ holds, s.beforehand cs = .ok holds := by
  induction cs with
  | nil => exact ⟨true, rfl⟩
  | cons c rest ih =>
    have hrest := ih fun d hd => hcs d (List.mem_cons_of_mem _ hd)
    rw [beforehand]
    cases s.settling? c with
    | none => exact hrest
    | some r =>
      simp only [h c (hcs c (List.mem_cons_self ..))]
      split
      · exact hrest
      · exact ⟨false, rfl⟩

/-- A statement of which every condition can be tested comes to no flaw. -/
theorem flaw?_eq_none : s.flaw? ix = none := by
  obtain ⟨holds, hholds⟩ : ∃ holds, s.beforehand s.conditions = .ok holds :=
    beforehand_eq_ok h fun _ hc => hc
  rw [flaw?, hholds]
  cases holds with
  | true => exact routeFlaw?_eq_none h
  | false => rfl

end Tested

/-! ### Runs -/

/-- On an index that has lost nothing a statement gives its results. -/
theorem Runnable.run_eq (h : s.Runnable) (hix : ix.lost = []) : s.run ix = .ok (s.results ix) := by
  have hhas : (s.relations.find? fun r => !ix.has r) = none := by
    rw [List.find?_eq_none]
    intro r _
    simp [Index.has, hix]
  have hfailure : s.failure? ix = none := by
    rw [failure?, hhas]
    show (if _ then _ else _) = _
    rw [if_neg (Nat.not_lt.mpr h.depth), if_neg (Nat.not_lt.mpr h.parameters), flaw?_eq_none h.tested]
    rfl
  rw [run, hfailure]

/-- A run that does not fail gives the statement's results. -/
theorem results_of_run {ms : List Match} (h : s.run ix = .ok ms) : ms = s.results ix := by
  unfold run at h
  split at h
  · cases h
  · exact (Except.ok.inj h).symm

end Catalogue.Index.Statement
