import Catalogue.Index.Selection
import Catalogue.Proofs.Entries
import Catalogue.Proofs.Number.Digits
import Mathlib.Data.List.Forall2
import Mathlib.Data.List.TakeWhile
import Mathlib.Data.List.Nodup

/-! The conditions of a plan's filters, and the parameters of its statement. What the condition of a filter can be
is said once (`condition?_eq_some`), and so is what a statement is made of (`Statement.ofPlan_eq_ok`). No two
parameters have the same name, within a filter or across filters (`nodup_names`), so every condition is run with
the values that its own filter bound (`bound_parameter`). -/
namespace Catalogue.Index

open Number

/-! ### The conditions of filters -/

theorem target?_eq_none {field : Field} : field.target? = none ↔ field = .year := by
  cases field <;> simp [Field.target?]

theorem ne_year_of_target {field : Field} {t : Target} (ht : field.target? = some t) : field ≠ .year := by
  rintro rfl
  cases ht

/-- The parameters of a set, one for each of its texts. -/
def memberParameters (i : Nat) (t : Target) (values : List String) : List (String × Parameter) :=
  values.zipIdx.map fun v => (memberName i v.2, Parameter.text (t.normalization.apply v.1))

/-- All that the condition of a filter at position `i` can be. -/
inductive Expressed (i : Nat) (f : Filter) : BoundCondition → Prop where
  | years {first last : Int} (hfield : f.field = .year) (hop : f.op = .range) (hvalue : f.value = .range first last) :
    Expressed i f ⟨⟨.imprints, .overlaps (memberName i 0) (memberName i 1), f.negate⟩,
      [(memberName i 0, .int first), (memberName i 1, .int last)]⟩
  | year {s : String} {n : Int} (hfield : f.field = .year) (hop : f.op = .equals) (hvalue : f.value = .text s)
      (hyear : parseInt64? (Text.trim s) = some n) :
    Expressed i f ⟨⟨.imprints, .overlaps (parameterName i) (parameterName i), f.negate⟩, [(parameterName i, .int n)]⟩
  | equals {t : Target} {s : String} (htarget : f.field.target? = some t) (hop : f.op = .equals)
      (hvalue : f.value = .text s) :
    Expressed i f ⟨⟨t.table, .equals t.columnTexts [parameterName i], f.negate⟩,
      [(parameterName i, .text (t.normalization.apply s))]⟩
  | found {t : Target} {s : String} (htarget : f.field.target? = some t) (hop : f.op = .contains)
      (hvalue : f.value = .text s) (hindexed : t.table.hasFullText = true) :
    Expressed i f ⟨⟨t.table, .found (parameterName i), f.negate⟩,
      [(parameterName i, .text (FullText.quoteWords (t.normalization.apply s)))]⟩
  | like {t : Target} {s : String} (htarget : f.field.target? = some t) (hop : f.op = .contains)
      (hvalue : f.value = .text s) (hindexed : t.table.hasFullText = false) :
    Expressed i f ⟨⟨t.table, .like t.columnTexts (parameterName i), f.negate⟩,
      [(parameterName i, .text (Like.containing (t.normalization.apply s)))]⟩
  | oneOf {t : Target} {values : List String} (htarget : f.field.target? = some t) (hop : f.op = .oneOf)
      (hvalue : f.value = .set values) :
    Expressed i f ⟨⟨t.table, .equals t.columnTexts ((memberParameters i t values).map (·.1)), f.negate⟩,
      memberParameters i t values⟩

section Forms
variable {i : Nat} {f : Filter} {b : BoundCondition}

theorem expressed_of_years (hfield : f.field = .year) (h : yearCondition? i f = some b) : Expressed i f b := by
  unfold yearCondition? at h
  split at h
  · rename_i hop hvalue
    cases h
    exact .years hfield hop hvalue
  · rename_i hop hvalue
    obtain ⟨n, hn, rfl⟩ := Option.map_eq_some_iff.mp h
    exact .year hfield hop hvalue hn
  · cases h

theorem expressed_of_texts {t : Target} (htarget : f.field.target? = some t) (h : textCondition? i t f = some b) :
    Expressed i f b := by
  unfold textCondition? at h
  split at h
  · rename_i hop hvalue
    cases h
    exact .equals htarget hop hvalue
  · rename_i hop hvalue
    simp only at h
    split at h
    · rename_i hindexed
      cases h
      exact .found htarget hop hvalue hindexed
    · rename_i hindexed
      cases h
      exact .like htarget hop hvalue (Bool.eq_false_iff.mpr hindexed)
  · rename_i hop hvalue
    cases h
    exact .oneOf htarget hop hvalue
  · cases h

theorem Expressed.condition?_eq (h : Expressed i f b) : condition? i f = some b := by
  cases h with
  | years hfield hop hvalue => simp only [condition?, target?_eq_none.mpr hfield, yearCondition?, hop, hvalue]
  | year hfield hop hvalue hyear =>
    simp only [condition?, target?_eq_none.mpr hfield, yearCondition?, hop, hvalue, hyear, Option.map_some]
  | equals htarget hop hvalue => simp only [condition?, htarget, textCondition?, hop, hvalue]
  | found htarget hop hvalue hindexed =>
    simp only [condition?, htarget, textCondition?, hop, hvalue, hindexed, if_true]
  | like htarget hop hvalue hindexed =>
    simp only [condition?, htarget, textCondition?, hop, hvalue, hindexed, Bool.false_eq_true, if_false]
  | oneOf htarget hop hvalue =>
    simp only [condition?, htarget, textCondition?, hop, hvalue]
    rfl

/-- The condition of a filter is one of these. -/
theorem condition?_eq_some : condition? i f = some b ↔ Expressed i f b := by
  refine ⟨fun h => ?_, Expressed.condition?_eq⟩
  unfold condition? at h
  split at h
  · rename_i htarget
    exact expressed_of_years (target?_eq_none.mp htarget) h
  · rename_i htarget
    exact expressed_of_texts htarget h

end Forms

/-! ### Names -/

/-- The digits in a parameter's name that say which filter it belongs to. -/
def positionDigits (name : String) : List Char := (name.toList.drop 2).takeWhile Char.isDigit

theorem toList_parameterName (i : Nat) : (parameterName i).toList = ':' :: 'f' :: decimalDigits i := by
  simp [parameterName, decimalDigits]

theorem toList_memberName (i j : Nat) :
    (memberName i j).toList = ':' :: 'f' :: (decimalDigits i ++ '_' :: decimalDigits j) := by
  simp [memberName, toList_parameterName, decimalDigits]

theorem isDigit_decimalDigits (i : Nat) : ∀ c ∈ decimalDigits i, c.isDigit = true :=
  fun _ hc => Nat.isDigit_of_mem_toDigits (by decide) (by decide) hc

theorem positionDigits_parameterName (i : Nat) : positionDigits (parameterName i) = decimalDigits i := by
  rw [positionDigits, toList_parameterName]
  exact List.takeWhile_eq_self_iff.mpr (isDigit_decimalDigits i)

theorem positionDigits_memberName (i j : Nat) : positionDigits (memberName i j) = decimalDigits i := by
  rw [positionDigits, toList_memberName]
  show List.takeWhile Char.isDigit (decimalDigits i ++ '_' :: decimalDigits j) = _
  rw [List.takeWhile_append_of_pos (isDigit_decimalDigits i)]
  simp [Char.isDigit]

theorem memberName_injective {i j k : Nat} (h : memberName i j = memberName i k) : j = k := by
  have hlist := congrArg String.toList h
  rw [toList_memberName, toList_memberName] at hlist
  simp only [List.cons.injEq, true_and, List.append_cancel_left_eq] at hlist
  exact decimalDigits_injective hlist

theorem positionDigits_limitName : positionDigits limitName = [] := by decide

/-! ### The names of a condition -/

/-- The names of a condition's parameters. -/
def BoundCondition.names (b : BoundCondition) : List String := b.parameters.map (·.1)

theorem names_parameters (bs : List BoundCondition) :
    (bs.flatMap (·.parameters)).map (·.1) = bs.flatMap BoundCondition.names := List.map_flatMap

/-- Every parameter of a filter's condition carries the filter's position, and no two have the same
name. -/
structure NamesOf (i : Nat) (b : BoundCondition) : Prop where
  position : ∀ n ∈ b.names, positionDigits n = decimalDigits i
  nodup : b.names.Nodup

theorem namesOf_single (i : Nat) (c : Condition) (v : Parameter) :
    NamesOf i ⟨c, [(parameterName i, v)]⟩ :=
  ⟨by simp [BoundCondition.names, positionDigits_parameterName], by simp [BoundCondition.names]⟩

/-- The names of the parameters of a set say how many texts it has, and nothing else of them. -/
theorem names_members (i : Nat) (t : Target) (values : List String) :
    (memberParameters i t values).map (·.1) = (List.range' 0 values.length).map (memberName i) := by
  rw [← List.zipIdx_map_snd 0 values, memberParameters, List.map_map, List.map_map]
  rfl

theorem namesOf_members (i : Nat) (c : Condition) (t : Target) (values : List String) :
    NamesOf i ⟨c, memberParameters i t values⟩ := by
  constructor
  · intro n hn
    rw [BoundCondition.names, names_members] at hn
    obtain ⟨j, -, rfl⟩ := List.mem_map.mp hn
    exact positionDigits_memberName i j
  · rw [BoundCondition.names, names_members]
    exact List.Nodup.map (fun _ _ h => memberName_injective h) List.nodup_range'

theorem namesOf_range (i : Nat) (c : Condition) (a b : Parameter) :
    NamesOf i ⟨c, [(memberName i 0, a), (memberName i 1, b)]⟩ := by
  constructor
  · intro n hn
    simp only [BoundCondition.names, List.map_cons, List.map_nil, List.mem_cons, List.not_mem_nil,
      or_false] at hn
    rcases hn with rfl | rfl <;> exact positionDigits_memberName ..
  · have hne : memberName i 0 ≠ memberName i 1 := fun h => absurd (memberName_injective h) (by decide)
    simp [BoundCondition.names, hne]

theorem namesOf_condition? {i : Nat} {f : Filter} {b : BoundCondition}
    (h : condition? i f = some b) : NamesOf i b := by
  cases condition?_eq_some.mp h with
  | years => exact namesOf_range ..
  | year | equals | found | like => exact namesOf_single ..
  | oneOf => exact namesOf_members ..

/-! ### The names of a statement -/

theorem conditionsFrom_of_none {i : Nat} {f : Filter} (h : condition? i f = none) (rest : List Filter) :
    conditionsFrom i (f :: rest) = .error ⟨i, f.field, f.op⟩ := by
  rw [conditionsFrom, h]

theorem conditionsFrom_of_some {i : Nat} {f : Filter} {b : BoundCondition} (h : condition? i f = some b)
    (rest : List Filter) : conditionsFrom i (f :: rest) = (conditionsFrom (i + 1) rest).map (b :: ·) := by
  rw [conditionsFrom, h]

/-- The conditions of filters, one for one. -/
theorem conditionsFrom_eq_ok {i : Nat} {fs : List Filter} {bs : List BoundCondition} :
    conditionsFrom i fs = .ok bs ↔
      List.Forall₂ (fun f b => condition? f.2 f.1 = some b) (fs.zipIdx i) bs := by
  induction fs generalizing i bs with
  | nil => cases bs <;> simp [conditionsFrom]
  | cons f rest ih =>
    rw [List.zipIdx_cons, List.forall₂_cons_left_iff]
    simp only [← ih]
    cases hc : condition? i f with
    | none => simp [conditionsFrom_of_none hc]
    | some b =>
      rw [conditionsFrom_of_some hc]
      cases conditionsFrom (i + 1) rest <;> simp [Except.map, eq_comm]

/-- The names that the conditions of filters from a position on bind: all of that position or
later ones, and no two the same. -/
theorem names_from {i : Nat} {fs : List Filter} {bs : List BoundCondition}
    (h : List.Forall₂ (fun f b => condition? f.2 f.1 = some b) (fs.zipIdx i) bs) :
    (∀ n ∈ bs.flatMap BoundCondition.names, ∃ j, i ≤ j ∧ positionDigits n = decimalDigits j) ∧
      (bs.flatMap BoundCondition.names).Nodup := by
  induction fs generalizing i bs with
  | nil =>
    cases h
    simp
  | cons f rest ih =>
    rw [List.zipIdx_cons] at h
    cases h with
    | @cons _ b _ cs hb hrest =>
      obtain ⟨hpos, hnodup⟩ := ih hrest
      have hnames := namesOf_condition? hb
      rw [List.flatMap_cons]
      refine ⟨fun n hn => ?_, List.nodup_append.mpr ⟨hnames.nodup, hnodup, ?_⟩⟩
      · rcases List.mem_append.mp hn with hn | hn
        · exact ⟨i, le_refl i, hnames.position n hn⟩
        · obtain ⟨j, hj, hd⟩ := hpos n hn
          exact ⟨j, by omega, hd⟩
      · rintro n hn m hm rfl
        obtain ⟨j, hj, hd⟩ := hpos n hm
        have heq : decimalDigits i = decimalDigits j := (hnames.position n hn).symm.trans hd
        have := decimalDigits_injective heq
        omega

theorem exists_of_mem_left {α β : Type} {R : α → β → Prop} {as : List α} {bs : List β}
    (h : List.Forall₂ R as bs) {a : α} (ha : a ∈ as) : ∃ b ∈ bs, R a b := by
  induction h with
  | nil => cases ha
  | @cons x y _ _ hxy _ ih =>
    rcases List.mem_cons.mp ha with rfl | ha
    · exact ⟨y, List.mem_cons_self .., hxy⟩
    · obtain ⟨b, hb, hr⟩ := ih ha
      exact ⟨b, List.mem_cons_of_mem _ hb, hr⟩

/-- What a plan's limit binds, if there is one. -/
def limitParameters (p : Plan) : Entries Parameter :=
  (Plan.positive p.limit).toList.map fun (n : Nat) =>
    (limitName, Parameter.int (min n Statement.greatestLimit : Nat))

theorem fst_of_mem_limitParameters {p : Plan} {e : String × Parameter} (h : e ∈ limitParameters p) :
    e.1 = limitName := by
  obtain ⟨n, -, rfl⟩ := List.mem_map.mp h
  rfl

theorem names_limit (p : Plan) :
    (limitParameters p).map (·.1) = if (Plan.positive p.limit).isSome then [limitName] else [] := by
  cases hlimit : Plan.positive p.limit <;> simp [limitParameters, hlimit]

/-- What a plan's statement is made of. -/
structure StatementOf (p : Plan) (s : Statement) (bs : List BoundCondition) : Prop where
  conditions : s.conditions = bs.map (·.condition)
  filters : List.Forall₂ (fun f b => condition? f.2 f.1 = some b) p.filters.zipIdx bs
  limited : s.limited = (Plan.positive p.limit).isSome
  parameters : s.parameters = Entries.sorted (bs.flatMap (·.parameters) ++ limitParameters p)

theorem Statement.ofPlan_eq_ok {p : Plan} {s : Statement} : ofPlan p = .ok s ↔ ∃ bs, StatementOf p s bs := by
  unfold ofPlan
  constructor
  · intro h
    cases hc : conditionsFrom 0 p.filters with
    | error e => rw [hc] at h; cases h
    | ok bs =>
      rw [hc] at h
      cases h
      exact ⟨bs, rfl, conditionsFrom_eq_ok.mp hc, rfl, rfl⟩
  · rintro ⟨bs, hconditions, hfilters, hlimited, hparameters⟩
    rw [conditionsFrom_eq_ok.mpr hfilters]
    obtain ⟨conditions, limited, parameters⟩ := s
    simp only at hconditions hlimited hparameters
    rw [hconditions, hlimited, hparameters]
    rfl

theorem statementOf_ofPlan {p : Plan} {s : Statement} (h : Statement.ofPlan p = .ok s) :
    ∃ bs, StatementOf p s bs := Statement.ofPlan_eq_ok.mp h

namespace StatementOf

variable {p : Plan} {s : Statement} {bs : List BoundCondition}

theorem condition_of_mem (h : StatementOf p s bs) {f : Filter} (hf : f ∈ p.filters) :
    ∃ i, ∃ b ∈ bs, condition? i f = some b := by
  obtain ⟨i, hi⟩ := List.mem_iff_getElem?.mp hf
  have hz : (f, i) ∈ p.filters.zipIdx := List.mem_zipIdx_iff_getElem?.mpr hi
  obtain ⟨b, hb, hc⟩ := exists_of_mem_left h.filters hz
  exact ⟨i, b, hb, hc⟩

theorem filter_of_mem (h : StatementOf p s bs) {b : BoundCondition} (hb : b ∈ bs) :
    ∃ i, ∃ f ∈ p.filters, condition? i f = some b := by
  obtain ⟨⟨f, i⟩, hf, hc⟩ := exists_of_mem_left h.filters.flip hb
  exact ⟨i, f, List.fst_mem_of_mem_zipIdx hf, hc⟩

/-- No two parameters have the same name. -/
theorem nodup_names (h : StatementOf p s bs) :
    ((bs.flatMap (·.parameters) ++ limitParameters p).map (·.1)).Nodup := by
  obtain ⟨hpos, hnodup⟩ := names_from h.filters
  rw [List.map_append, names_parameters, List.nodup_append]
  refine ⟨hnodup, ?_, ?_⟩
  · cases hp : Plan.positive p.limit <;> simp [limitParameters, hp]
  · rintro n hn m hm rfl
    obtain ⟨e, he, rfl⟩ := List.mem_map.mp hm
    obtain ⟨j, -, hd⟩ := hpos e.1 hn
    rw [fst_of_mem_limitParameters he, positionDigits_limitName] at hd
    exact decimalDigits_ne_nil j hd.symm

theorem bound_of_mem (h : StatementOf p s bs) {e : String × Parameter}
    (he : e ∈ bs.flatMap (·.parameters) ++ limitParameters p) : s.bound e.1 = e.2.cell := by
  rw [Statement.bound, h.parameters, Entries.get?_sorted _ h.nodup_names,
    Entries.get?_of_mem h.nodup_names he]
  rfl

/-- A name is bound to the value that was given with it. -/
theorem bound_parameter (h : StatementOf p s bs) {b : BoundCondition} (hb : b ∈ bs)
    {e : String × Parameter} (he : e ∈ b.parameters) : s.bound e.1 = e.2.cell :=
  h.bound_of_mem (List.mem_append_left _ (List.mem_flatMap.mpr ⟨b, hb, he⟩))

/-- The number of results that are kept: the plan's limit, as far as it can be bound. -/
theorem limit?_eq (h : StatementOf p s bs) :
    s.limit? = (Plan.positive p.limit).map (min · Statement.greatestLimit) := by
  cases hp : Plan.positive p.limit with
  | none => simp [Statement.limit?, h.limited, hp]
  | some n =>
    have hmem : (limitName, Parameter.int (min n Statement.greatestLimit : Nat)) ∈ limitParameters p := by
      simp [limitParameters, hp]
    have hbound : s.bound limitName = .int (min n Statement.greatestLimit : Nat) :=
      h.bound_of_mem (List.mem_append_right _ hmem)
    rw [Statement.limit?, h.limited, hp, Option.isSome_some, if_pos rfl, hbound]
    rfl

end StatementOf
end Catalogue.Index
