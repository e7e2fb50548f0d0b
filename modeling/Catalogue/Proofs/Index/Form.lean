import Catalogue.Proofs.Index.Support

/-! What of a plan its statement shows. Two filters are alike if they have the same field and
operator, both or neither are negated, and their sets, if they have any, are of the same size. Then
they ask for the same condition, of parameters of the same names (`condition?_alike`): what they
compare with is in the parameters' values and nowhere else. So two plans whose filters are alike one
for one, both or neither of which are limited, have no statement for the same reason, or have
statements with the same text, the same tables and the same names (`ofPlan_alike`). -/
namespace Catalogue

/-! ### Filters -/

/-- Filters that differ at most in what they compare with, in confidence and in notes. -/
structure Filter.Alike (f g : Filter) : Prop where
  field : f.field = g.field
  op : f.op = g.op
  negate : f.negate = g.negate
  members : f.set?.map List.length = g.set?.map List.length

namespace Filter.Alike

variable {f g : Filter}

theorem supported (h : f.Alike g) : f.Supported ↔ g.Supported := by
  unfold Supported
  rw [h.field, h.op]

/-- A set of a filter that is alike. -/
theorem set (h : f.Alike g) {values : List String} (hvalue : f.value = .set values) :
    ∃ others, g.value = .set others ∧ others.length = values.length := by
  have hmembers := h.members
  unfold set? at hmembers
  rw [hvalue] at hmembers
  cases hother : g.value with
  | set others =>
    rw [hother] at hmembers
    exact ⟨others, rfl, (Option.some.inj hmembers).symm⟩
  | text s =>
    rw [hother] at hmembers
    cases hmembers
  | range first last =>
    rw [hother] at hmembers
    cases hmembers

end Filter.Alike

namespace Index

/-! ### Conditions -/

/-- Filters that are alike ask for the same condition, of parameters of the same names. -/
theorem condition?_alike {i : Nat} {f g : Filter} (h : f.Alike g) (hg : g.Valid) {b : BoundCondition}
    (hb : condition? i f = some b) :
    ∃ b', condition? i g = some b' ∧ b'.condition = b.condition ∧ b'.names = b.names := by
  cases condition?_eq_some.mp hb with
  | years hfield hop =>
    rw [h.field] at hfield
    rw [h.op] at hop
    obtain ⟨first, last, hvalue⟩ := hg.bounds hop
    exact ⟨_, condition?_eq_some.mpr (.years hfield hop hvalue), by rw [h.negate], rfl⟩
  | year hfield hop =>
    rw [h.field] at hfield
    rw [h.op] at hop
    obtain ⟨s, n, hvalue, hn⟩ := hg.year hfield hop
    exact ⟨_, condition?_eq_some.mpr (.year hfield hop hvalue hn), by rw [h.negate], rfl⟩
  | equals htarget hop =>
    rw [h.field] at htarget
    rw [h.op] at hop
    obtain ⟨s, hvalue⟩ := hg.text (.inl hop)
    exact ⟨_, condition?_eq_some.mpr (.equals htarget hop hvalue), by rw [h.negate], rfl⟩
  | found htarget hop _ hindexed =>
    rw [h.field] at htarget
    rw [h.op] at hop
    obtain ⟨s, hvalue⟩ := hg.text (.inr hop)
    exact ⟨_, condition?_eq_some.mpr (.found htarget hop hvalue hindexed), by rw [h.negate], rfl⟩
  | like htarget hop _ hindexed =>
    rw [h.field] at htarget
    rw [h.op] at hop
    obtain ⟨s, hvalue⟩ := hg.text (.inr hop)
    exact ⟨_, condition?_eq_some.mpr (.like htarget hop hvalue hindexed), by rw [h.negate], rfl⟩
  | @oneOf t values htarget hop hvalue =>
    obtain ⟨others, hother, hlength⟩ := h.set hvalue
    rw [h.field] at htarget
    rw [h.op] at hop
    have hnames : (memberParameters i t others).map (·.1) = (memberParameters i t values).map (·.1) := by
      rw [names_members, names_members, hlength]
    exact ⟨_, condition?_eq_some.mpr (.oneOf htarget hop hother), by rw [h.negate, hnames], hnames⟩

/-- What a condition shows in a statement: the condition itself and the names of its parameters. -/
def BoundCondition.shown (b : BoundCondition) : Condition × List String := (b.condition, b.names)

private theorem map_shown_cons (b : BoundCondition) (bound : Except Unsupported (List BoundCondition)) :
    (bound.map (b :: ·)).map (List.map BoundCondition.shown) =
      (bound.map (List.map BoundCondition.shown)).map (b.shown :: ·) := by
  cases bound <;> rfl

theorem of_map_shown {bs bs' : List BoundCondition}
    (h : bs.map BoundCondition.shown = bs'.map BoundCondition.shown) :
    bs.map (·.condition) = bs'.map (·.condition) ∧ bs.map BoundCondition.names = bs'.map BoundCondition.names := by
  have hfst := congrArg (List.map Prod.fst) h
  have hsnd := congrArg (List.map Prod.snd) h
  rw [List.map_map, List.map_map] at hfst hsnd
  exact ⟨hfst, hsnd⟩

/-- Filters that are alike one for one show the same, or the same one of them has no condition. -/
theorem conditionsFrom_alike {i : Nat} {fs gs : List Filter} (h : List.Forall₂ Filter.Alike fs gs)
    (hfs : ∀ f ∈ fs, f.Valid) (hgs : ∀ g ∈ gs, g.Valid) :
    (conditionsFrom i fs).map (List.map BoundCondition.shown) =
      (conditionsFrom i gs).map (List.map BoundCondition.shown) := by
  induction h generalizing i with
  | nil => rfl
  | @cons f g fs gs halike _ ih =>
    obtain ⟨hf, hfs⟩ := List.forall_mem_cons.mp hfs
    obtain ⟨hg, hgs⟩ := List.forall_mem_cons.mp hgs
    have hrest := ih (i := i + 1) hfs hgs
    cases hb : condition? i f with
    | some b =>
      obtain ⟨b', hb', hcondition, hnames⟩ := condition?_alike halike hg hb
      have hshown : b'.shown = b.shown := Prod.ext hcondition hnames
      rw [conditionsFrom_of_some hb, conditionsFrom_of_some hb', map_shown_cons, map_shown_cons, hshown, hrest]
    | none =>
      have hunsupported : ¬g.Supported := by
        rw [← halike.supported, ← isSome_condition? i hf, hb]
        exact Bool.false_ne_true
      have hb' : condition? i g = none := by
        rw [← Option.not_isSome_iff_eq_none, isSome_condition? i hg]
        exact hunsupported
      rw [conditionsFrom_of_none hb, conditionsFrom_of_none hb', halike.field, halike.op]

end Index

/-! ### Statements -/

/-- Plans that differ at most in what their filters compare with, in how far they are limited, and in what no
statement is made of. -/
structure Plan.Alike (p q : Plan) : Prop where
  filters : List.Forall₂ Filter.Alike p.filters q.filters
  /-- Both are limited, or neither is. -/
  limited : (Plan.positive p.limit).isSome = (Plan.positive q.limit).isSome

namespace Index.Statement

/-- What a statement shows to one who does not see the values of its parameters: its text, the tables it joins
and the names of its parameters. -/
def shown (s : Statement) : String × List Table × List String := (s.sql, s.tables, s.parameters.map (·.1))

/-- The text and the tables of a statement are made of its conditions and of whether it is limited. -/
theorem shown_eq {s t : Statement} (hconditions : s.conditions = t.conditions) (hlimited : s.limited = t.limited)
    (hnames : s.parameters.map (·.1) = t.parameters.map (·.1)) : s.shown = t.shown := by
  obtain ⟨conditions, limited, parameters⟩ := s
  cases hconditions
  cases hlimited
  exact Prod.ext rfl (Prod.ext rfl hnames)

theorem names_eq {p q : Plan} (hlimited : (Plan.positive p.limit).isSome = (Plan.positive q.limit).isSome)
    {bs bs' : List BoundCondition} (hnames : bs.map BoundCondition.names = bs'.map BoundCondition.names) :
    (bs.flatMap (·.parameters) ++ limitParameters p).map (·.1) =
      (bs'.flatMap (·.parameters) ++ limitParameters q).map (·.1) := by
  rw [List.map_append, List.map_append, names_parameters, names_parameters, List.flatMap_def, List.flatMap_def, hnames,
    names_limit, names_limit, hlimited]

/-- Plans that are alike have statements that show the same, or none for the same reason: what filters compare
with, confidences, notes, soft filters, the text of the question and where a plan comes from are not shown. -/
theorem ofPlan_alike {p q : Plan} (hp : ∀ f ∈ p.filters, f.Valid) (hq : ∀ f ∈ q.filters, f.Valid)
    (h : p.Alike q) : (ofPlan p).map shown = (ofPlan q).map shown := by
  have hfilters := conditionsFrom_alike (i := 0) h.filters hp hq
  unfold ofPlan
  cases hps : conditionsFrom 0 p.filters with
  | error e =>
    cases hqs : conditionsFrom 0 q.filters with
    | error e' =>
      rw [hps, hqs] at hfilters
      cases hfilters
      rfl
    | ok bs' =>
      rw [hps, hqs] at hfilters
      cases hfilters
  | ok bs =>
    cases hqs : conditionsFrom 0 q.filters with
    | error e' =>
      rw [hps, hqs] at hfilters
      cases hfilters
    | ok bs' =>
      rw [hps, hqs] at hfilters
      have hshown : bs.map BoundCondition.shown = bs'.map BoundCondition.shown := Except.ok.inj hfilters
      obtain ⟨hconditions, hnames⟩ := of_map_shown hshown
      exact congrArg Except.ok
        (shown_eq hconditions h.limited (Entries.keys_sorted (names_eq h.limited hnames)))

/-- A plan for books of one place, not of some years, in one of some languages. -/
def imprintPlan (place : String) (first last : Int) (languages : List String) (limit : Nat) : Plan :=
  { Plan.ofText place with
    filters := [⟨.place, .equals, .text place, false, none, none⟩,
      ⟨.year, .range, .range first last, true, none, none⟩,
      ⟨.language, .oneOf, .set languages, false, none, none⟩]
    limit := some limit }

theorem valid_imprintPlan (limit : Nat) {place : String} {first last : Int} {languages : List String}
    (hplace : Filter.Trimmed place) (hyears : first ≤ last) (hsome : languages ≠ [])
    (hlanguages : ∀ l ∈ languages, Filter.Trimmed l) :
    ∀ f ∈ (imprintPlan place first last languages limit).filters, f.Valid := by
  simp only [imprintPlan, List.forall_mem_cons]
  exact ⟨⟨⟨hplace, nofun⟩, nofun⟩, ⟨hyears, nofun⟩, ⟨⟨hsome, hlanguages⟩, nofun⟩, List.forall_mem_nil _⟩

theorem supported_imprintPlan {place : String} {first last : Int} {languages : List String} {limit : Nat} :
    ∀ f ∈ (imprintPlan place first last languages limit).filters, f.Supported := by
  simp [imprintPlan, Filter.Supported]

/-- A value that is written like a part of a statement is bound like any other. -/
theorem ofPlan_alike_quoted : ∃ s t,
    ofPlan (imprintPlan "paris" 1500 1599 ["lat", "heb"] 3) = .ok s ∧
    ofPlan (imprintPlan "x' OR :f2_0 = '" 1 2 ["fre", "LIMIT :limit"] 10) = .ok t ∧
    s.shown = t.shown ∧ s ≠ t := by
  have htrimmed : Filter.Trimmed "paris" ∧ Filter.Trimmed "x' OR :f2_0 = '" := by
    refine ⟨⟨?_, ?_⟩, ?_, ?_⟩ <;> decide +kernel
  have hlanguages : (∀ l ∈ ["lat", "heb"], Filter.Trimmed l) ∧ ∀ l ∈ ["fre", "LIMIT :limit"], Filter.Trimmed l := by
    unfold Filter.Trimmed
    decide +kernel
  have hp := valid_imprintPlan 3 htrimmed.1 (by decide : (1500 : Int) ≤ 1599) (by decide) hlanguages.1
  have hq := valid_imprintPlan 10 htrimmed.2 (by decide : (1 : Int) ≤ 2) (by decide) hlanguages.2
  obtain ⟨s, hs⟩ := (translates_iff hp).mpr supported_imprintPlan
  obtain ⟨t, ht⟩ := (translates_iff hq).mpr supported_imprintPlan
  have hshown := ofPlan_alike hp hq
    ⟨.cons ⟨rfl, rfl, rfl, rfl⟩ (.cons ⟨rfl, rfl, rfl, rfl⟩ (.cons ⟨rfl, rfl, rfl, rfl⟩ .nil)), rfl⟩
  rw [hs, ht] at hshown
  refine ⟨s, t, hs, ht, Except.ok.inj hshown, ?_⟩
  rintro rfl
  obtain ⟨bs, hthree⟩ := statementOf_ofPlan hs
  obtain ⟨cs, hten⟩ := statementOf_ofPlan ht
  exact absurd (hthree.limit?_eq.symm.trans hten.limit?_eq) (by decide +kernel)

end Index.Statement
end Catalogue
