import Catalogue.Filter.Basic
import Catalogue.Proofs.Text.Case

/-! The rules of filters. A value passes its check exactly if, with its texts trimmed, it is of the
shape that its operator asks for, and is kept so (`checkValue_eq_ok`). So every filter that is made
by the constructors, from bounds that are integers of 32 bits, is sound (`sound_of_built`). -/
namespace Catalogue

open Number (Binary64)

/-- A value whose bounds, if it has any, are integers of 32 bits. -/
def FilterValue.Held : FilterValue → Prop
  | .range first last => Number.int32.holds first ∧ Number.int32.holds last
  | _ => True

/-- The value with white space trimmed from its texts. -/
def FilterValue.trimmed : FilterValue → FilterValue
  | .text s => .text (Text.trim s)
  | .range first last => .range first last
  | .set values => .set (values.map Text.trim)

theorem FilterValue.Held.trimmed {v : FilterValue} (h : v.Held) : v.trimmed.Held := by
  cases v <;> exact h

namespace Filter

/-- A filter that keeps all rules and can be held in memory. -/
structure Sound (f : Filter) : Prop where
  valid : f.Valid
  held : f.value.Held

/-! ### Values -/

theorem trim_trim (s : String) : Text.trim (Text.trim s) = Text.trim s := by
  rw [Text.trim, Text.trim, String.toList_ofList, Text.trim_of_bare (Text.bare_trim _)]

theorem Trimmed.isEmpty {s : String} (h : Trimmed s) : s.isEmpty = false := by
  rw [Bool.eq_false_iff]
  exact fun hempty => h.2 (String.isEmpty_iff.mp hempty)

/-- What is left of a text is trimmed, unless the text is blank. -/
theorem trimmed_trim_iff {s : String} : Trimmed (Text.trim s) ↔ Text.isBlank s = false := by
  rw [Trimmed, Ne, Text.trim_eq_empty, Bool.not_eq_true]
  exact and_iff_right (trim_trim s)

/-- A text is what is compared as a whole or looked for in another. -/
theorem valueFits_text {field : Field} {op : Operator} {s : String} :
    ValueFits field op (.text s) ↔ (op = .equals ∨ op = .contains) ∧ Trimmed s ∧
      (op = .equals → field = .year → (Number.parseInt32? s).isSome) := by
  cases op <;> simp [ValueFits]

theorem ite_error_eq_ok {ε α : Type} {P : Prop} [Decidable P] {e : ε} {x : Except ε α} {a : α} :
    (if P then .error e else x) = .ok a ↔ ¬P ∧ x = .ok a := by
  by_cases hP : P <;> simp [hP]

/-- A value passes exactly if, trimmed, it is of the shape that its operator asks for, and is kept trimmed. -/
theorem checkValue_eq_ok {field : Field} {op : Operator} {v w : FilterValue} :
    checkValue field op v = .ok w ↔ ValueFits field op v.trimmed ∧ v.trimmed = w := by
  cases op <;> cases v <;> simp only [checkValue, FilterValue.trimmed, Text.isEmpty_trim]
  case equals.text s =>
    rw [ite_error_eq_ok, ite_error_eq_ok, Except.ok.injEq, ← and_assoc, valueFits_text, trimmed_trim_iff]
    refine and_congr_left fun _ => ?_
    simp [Option.isSome_iff_ne_none]
  case contains.text s =>
    rw [ite_error_eq_ok, ite_error_eq_ok, Except.ok.injEq, ← and_assoc, valueFits_text, trimmed_trim_iff]
    refine and_congr_left fun _ => ?_
    simp
  case range.range first last =>
    rw [ite_error_eq_ok, Except.ok.injEq, Int.not_lt]
    rfl
  case oneOf.set values =>
    rw [ite_error_eq_ok, Except.ok.injEq]
    refine and_congr_left fun _ => ?_
    simp [ValueFits, trimmed_trim_iff, Text.isEmpty_trim]
  all_goals exact iff_of_false nofun fun h => h.1.elim

/-- A value of the right shape is trimmed. -/
theorem trimmed_of_fits {field : Field} {op : Operator} {v : FilterValue} (h : ValueFits field op v) :
    v.trimmed = v := by
  cases v with
  | text s => exact congrArg FilterValue.text (valueFits_text.mp h).2.1.1
  | range first last => rfl
  | set values =>
    cases op with
    | oneOf =>
      have hvalues : values.map Text.trim = values := by
        rw [List.map_congr_left fun s hs => (h.2 s hs).1, List.map_id']
      exact congrArg FilterValue.set hvalues
    | equals | contains | range => exact h.elim

/-- A value of the right shape passes as it is. -/
theorem checkValue_of_fits {field : Field} {op : Operator} {v : FilterValue} (h : ValueFits field op v) :
    checkValue field op v = .ok v :=
  checkValue_eq_ok.mpr ⟨(trimmed_of_fits h).symm ▸ h, trimmed_of_fits h⟩

namespace Valid

variable {f : Filter}

/-- A filter that compares with one text has one. -/
theorem text (h : f.Valid) (hop : f.op = .equals ∨ f.op = .contains) : ∃ s, f.value = .text s := by
  have hfits := h.value
  cases hvalue : f.value with
  | text s => exact ⟨s, rfl⟩
  | range | set =>
    rw [hvalue] at hfits
    rcases hop with hop | hop <;> rw [hop] at hfits <;> exact hfits.elim

/-- A filter that compares with a range has bounds. -/
theorem bounds (h : f.Valid) (hop : f.op = .range) : ∃ first last, f.value = .range first last := by
  have hfits := h.value
  rw [hop] at hfits
  cases hvalue : f.value with
  | range first last => exact ⟨first, last, rfl⟩
  | text | set =>
    rw [hvalue] at hfits
    exact hfits.elim

/-- A filter that compares with several texts has a set. -/
theorem members (h : f.Valid) (hop : f.op = .oneOf) : ∃ values, f.value = .set values := by
  have hfits := h.value
  rw [hop] at hfits
  cases hvalue : f.value with
  | set values => exact ⟨values, rfl⟩
  | text | range =>
    rw [hvalue] at hfits
    exact hfits.elim

end Valid

/-! ### Confidence -/

/-- What numbers up to 1 are compared with. -/
theorem orderKey_one : Binary64.one.orderKey = (1023 * Binary64.hiddenBit : Nat) := by decide +kernel

/-- A number from 0 to 1 is finite. -/
theorem isProbability_of_between {x : Binary64} (h : Binary64.between Binary64.zero Binary64.one x) :
    IsProbability x := by
  refine ⟨?_, h⟩
  have hone : Binary64.one.orderKey < Binary64.infinityBits := orderKey_one ▸ by decide
  have hzero : Binary64.zero.orderKey = 0 := rfl
  simp only [Binary64.between, Bool.and_eq_true, decide_eq_true_eq, hzero] at h
  obtain ⟨⟨-, hlow⟩, hhigh⟩ := h
  have hkey : x.orderKey < Binary64.infinityBits := Int.lt_of_le_of_lt hhigh hone
  refine decide_eq_true ?_
  have hbits : (0 : Int) < Binary64.infinityBits := by decide
  unfold Binary64.orderKey at hlow hkey
  by_cases hneg : x.negative
  · rw [if_pos hneg] at hlow
    omega
  · rw [if_neg hneg] at hkey
    omega

theorem withConfidence?_of_probability {f : Filter} {x : Binary64} (h : IsProbability x) :
    f.withConfidence? x = .ok { f with confidence := some x } :=
  if_pos h.2

/-! ### Constructors -/

/-- The filters that the constructors make. -/
inductive Built : Filter → Prop where
  | make {field : Field} {op : Operator} {value : FilterValue} {f : Filter} (hheld : value.Held)
      (h : make? field op value = .ok f) : Built f
  | negated {f : Filter} (h : Built f) (negate : Bool) : Built (f.negated negate)
  | withConfidence {f g : Filter} {x : Binary64} (h : Built f) (hg : f.withConfidence? x = .ok g) : Built g
  | withNotes {f : Filter} (h : Built f) (notes : String) : Built (f.withNotes notes)

/-- What is made is of the field and the operator that were asked for, with the value that passed. -/
theorem make?_eq_ok {field : Field} {op : Operator} {value : FilterValue} {f : Filter}
    (h : make? field op value = .ok f) :
    ∃ w, checkValue field op value = .ok w ∧ f = ⟨field, op, w, false, none, none⟩ := by
  unfold make? at h
  cases hv : checkValue field op value with
  | error e =>
    rw [hv] at h
    cases h
  | ok w =>
    rw [hv] at h
    cases h
    exact ⟨w, rfl, rfl⟩

theorem valid_make {field : Field} {op : Operator} {value : FilterValue} {f : Filter}
    (h : make? field op value = .ok f) : f.Valid := by
  obtain ⟨w, hw, rfl⟩ := make?_eq_ok h
  obtain ⟨hfits, rfl⟩ := checkValue_eq_ok.mp hw
  exact ⟨hfits, nofun⟩

theorem sound_make {field : Field} {op : Operator} {value : FilterValue} {f : Filter} (hheld : value.Held)
    (h : make? field op value = .ok f) : f.Sound := by
  refine ⟨valid_make h, ?_⟩
  obtain ⟨w, hw, rfl⟩ := make?_eq_ok h
  obtain ⟨-, rfl⟩ := checkValue_eq_ok.mp hw
  exact hheld.trimmed

/-- What a confidence changes, and that it is a probability. -/
theorem withConfidence?_eq_ok {f g : Filter} {x : Binary64} :
    f.withConfidence? x = .ok g ↔ IsProbability x ∧ g = { f with confidence := some x } := by
  constructor
  · intro h
    unfold withConfidence? at h
    split at h
    · rename_i hx
      cases h
      exact ⟨isProbability_of_between hx, rfl⟩
    · cases h
  · rintro ⟨hx, rfl⟩
    exact withConfidence?_of_probability hx

theorem valid_withConfidence {f g : Filter} {x : Binary64} (hf : f.Valid) (h : f.withConfidence? x = .ok g) :
    g.Valid := by
  obtain ⟨hx, rfl⟩ := withConfidence?_eq_ok.mp h
  refine ⟨hf.value, fun y hy => ?_⟩
  obtain rfl := Option.mem_some.mp hy
  exact hx

theorem sound_withConfidence {f g : Filter} {x : Binary64} (hf : f.Sound) (h : f.withConfidence? x = .ok g) :
    g.Sound := by
  refine ⟨valid_withConfidence hf.valid h, ?_⟩
  obtain ⟨-, rfl⟩ := withConfidence?_eq_ok.mp h
  exact hf.held

/-- Every filter that the constructors make is sound. -/
theorem sound_of_built {f : Filter} (h : f.Built) : f.Sound := by
  induction h with
  | make hheld h => exact sound_make hheld h
  | negated _ negate ih => exact ⟨⟨ih.valid.value, ih.valid.confidence⟩, ih.held⟩
  | withConfidence _ hg ih => exact sound_withConfidence ih hg
  | withNotes _ notes ih => exact ⟨⟨ih.valid.value, ih.valid.confidence⟩, ih.held⟩

end Filter
end Catalogue
