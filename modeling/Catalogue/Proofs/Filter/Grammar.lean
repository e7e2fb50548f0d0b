import Catalogue.Proofs.Filter.Codec

/-! Which JSON is a filter. What is written (`WrittenFilter`) means a filter by the rules of its
operator: bounds in order for a range, texts that are not blank for a set or one such text, and a
text that is not blank or an integer for the rest (`WrittenFilter.Gives`). It makes a filter exactly
if it means one (`toFilter_eq_ok`), so a tree is read as a filter exactly if it is of the types that
the fields have and means one (`read_eq_ok`). Whether a filter was made by the constructors or read,
and whatever was then done with it, it is valid (`valid_of_obtained`). -/
namespace Catalogue

open Json Number

/-! ### Integers -/

theorem isSpace_of_mem_intText {n : Int} {c : Char} (h : c ∈ intText n) : Text.isSpace c = false := by
  rcases mem_intText h with rfl | ⟨hlow, hhigh⟩
  · decide
  · have hlow : 48 ≤ c.toNat := hlow
    have hhigh : c.toNat ≤ 57 := hhigh
    simp only [Text.isSpace, Bool.or_eq_false_iff, Bool.and_eq_false_imp, decide_eq_true_eq, decide_eq_false_iff_not,
      not_le, beq_eq_false_iff_ne, ne_eq]
    omega

/-- The decimal text of an integer has no white space. -/
theorem isTrimmed_intText (n : Int) : Filter.Trimmed (String.ofList (intText n)) := by
  constructor
  · rw [Text.trim, String.toList_ofList, Text.trim_of_bare (Text.bare_of_forall fun _ hc => isSpace_of_mem_intText hc)]
  · rw [Ne, String.ofList_eq_empty_iff, intText]
    split
    · exact List.cons_ne_nil _ _
    · exact decimalDigits_ne_nil _

theorem trimmed_intText (n : Int) :
    FilterValue.trimmed (.text (String.ofList (intText n))) = .text (String.ofList (intText n)) :=
  congrArg FilterValue.text (isTrimmed_intText n).1

theorem isSome_parseInt32?_intText (n : Int) :
    (parseInt32? (String.ofList (intText n))).isSome ↔ int32.holds n := by
  rw [parseInt32?, parseInteger?_intText (by decide)]
  split <;> simp [*]

/-! ### What is written -/

namespace WrittenFilter

/-- What is written gives a filter of this field and operator this value. -/
inductive Gives (w : WrittenFilter) (field : Field) : Operator → FilterValue → Prop where
  /-- Both bounds, in order. A value does not matter. -/
  | range {first last : Int} (hfirst : w.first = some first) (hlast : w.last = some last) (hle : first ≤ last) :
    Gives w field .range (.range first last)
  /-- One or more texts, none of them blank. -/
  | set {values : List String} (hvalue : w.value = some (.set values)) (hsome : values ≠ [])
      (hblank : ∀ s ∈ values, Text.isBlank s = false) : Gives w field .oneOf (.set (values.map Text.trim))
  /-- A text for the set that it is the only member of. -/
  | single {s : String} (hvalue : w.value = some (.text s)) (hblank : Text.isBlank s = false) :
    Gives w field .oneOf (.set [Text.trim s])
  | text {op : Operator} {s : String} (hop : op = .equals ∨ op = .contains) (hvalue : w.value = some (.text s))
      (hblank : Text.isBlank s = false)
      (hyear : op = .equals → field = .year → (parseInt32? (Text.trim s)).isSome) :
    Gives w field op (.text (Text.trim s))
  /-- An integer for its decimal text. -/
  | integer {op : Operator} {n : Int} (hop : op = .equals ∨ op = .contains) (hvalue : w.value = some (.integer n))
      (hyear : op = .equals → field = .year → int32.holds n) :
    Gives w field op (.text (String.ofList (intText n)))

/-- What is written means this filter. -/
structure Means (w : WrittenFilter) (f : Filter) : Prop where
  field : Field.parse w.field = .ok f.field
  op : Operator.parse w.op = .ok f.op
  value : w.Gives f.field f.op f.value
  negate : f.negate = w.negate
  confidence : f.confidence = w.confidence
  probability : ∀ x ∈ w.confidence, Filter.IsProbability x
  notes : f.notes = w.notes

/-- A value is given exactly if it is what the rules keep of the one that is made of what is written. -/
theorem gives_iff {w : WrittenFilter} {field : Field} {op : Operator} {kept : FilterValue} :
    w.Gives field op kept ↔ ∃ v, valueFor field op w = .ok v ∧ Filter.checkValue field op v = .ok kept := by
  simp only [Filter.checkValue_eq_ok]
  constructor
  · intro h
    cases h with
    | range hfirst hlast hle => exact ⟨.range _ _, by simp only [valueFor, hfirst, hlast], hle, rfl⟩
    | set hvalue hsome hblank =>
      refine ⟨.set _, by simp only [valueFor, hvalue], ⟨by simpa using hsome, fun t ht => ?_⟩, rfl⟩
      obtain ⟨s, hs, rfl⟩ := List.mem_map.mp ht
      exact Filter.trimmed_trim_iff.mpr (hblank s hs)
    | single hvalue hblank =>
      exact ⟨.set [_], by simp only [valueFor, hvalue],
        ⟨List.cons_ne_nil _ _, List.forall_mem_singleton.mpr (Filter.trimmed_trim_iff.mpr hblank)⟩, rfl⟩
    | text hop hvalue hblank hyear =>
      refine ⟨.text _, ?_, Filter.valueFits_text.mpr ⟨hop, Filter.trimmed_trim_iff.mpr hblank, hyear⟩, rfl⟩
      rcases hop with rfl | rfl <;> simp only [valueFor, hvalue]
    | @integer _ n hop hvalue hyear =>
      refine ⟨.text (String.ofList (intText n)), ?_, ?_, trimmed_intText n⟩
      · rcases hop with rfl | rfl <;> simp only [valueFor, hvalue]
      · rw [trimmed_intText]
        exact Filter.valueFits_text.mpr ⟨hop, isTrimmed_intText n,
          fun heq hfield => (isSome_parseInt32?_intText n).mpr (hyear heq hfield)⟩
  · rintro ⟨v, hv, hfits, rfl⟩
    unfold valueFor at hv
    split at hv
    · rename_i hfirst hlast
      cases hv
      exact .range hfirst hlast hfits
    · cases hv
    · rename_i hvalue
      cases hv
      refine .set hvalue (by simpa using hfits.1) fun s hs => ?_
      exact Filter.trimmed_trim_iff.mp (hfits.2 _ (List.mem_map_of_mem hs))
    · rename_i hvalue
      cases hv
      exact .single hvalue (Filter.trimmed_trim_iff.mp (hfits.2 _ (List.mem_singleton_self _)))
    · rename_i hvalue _
      cases hv
      obtain ⟨hop, htrimmed, hyear⟩ := Filter.valueFits_text.mp hfits
      exact .text hop hvalue (Filter.trimmed_trim_iff.mp htrimmed) hyear
    · rename_i n _ hvalue _
      cases hv
      rw [trimmed_intText] at hfits ⊢
      obtain ⟨hop, -, hyear⟩ := Filter.valueFits_text.mp hfits
      exact .integer hop hvalue fun heq hfield => (isSome_parseInt32?_intText n).mp (hyear heq hfield)
    · cases hv

/-- What is written makes a filter exactly if it means one, and makes that one. -/
theorem toFilter_eq_ok {w : WrittenFilter} {f : Filter} : w.toFilter = .ok f ↔ w.Means f := by
  constructor
  · intro h
    unfold toFilter at h
    obtain ⟨field, hfield, h⟩ := bind_eq_ok.mp h
    obtain ⟨op, hop, h⟩ := bind_eq_ok.mp h
    obtain ⟨v, hv, h⟩ := bind_eq_ok.mp h
    obtain ⟨g, hg, h⟩ := bind_eq_ok.mp h
    obtain ⟨kept, hkept, rfl⟩ := Filter.make?_eq_ok hg
    have hgives := gives_iff.mpr ⟨v, hv, hkept⟩
    cases hc : w.confidence with
    | none =>
      simp only [hc] at h
      cases h
      exact ⟨hfield, hop, hgives, rfl, hc.symm, by simp [hc], rfl⟩
    | some x =>
      simp only [hc] at h
      obtain ⟨k, hk, h⟩ := bind_eq_ok.mp h
      cases h
      obtain ⟨hx, rfl⟩ := Filter.withConfidence?_eq_ok.mp hk
      refine ⟨hfield, hop, hgives, rfl, hc.symm, fun y hy => ?_, rfl⟩
      rw [hc] at hy
      exact Option.mem_some.mp hy ▸ hx
  · intro h
    obtain ⟨field, op, kept, negate, confidence, notes⟩ := f
    obtain ⟨hfield, hop, hgives, rfl, rfl, hprobability, rfl⟩ := h
    obtain ⟨v, hv, hkept⟩ := gives_iff.mp hgives
    refine bind_eq_ok.mpr ⟨_, hfield, bind_eq_ok.mpr ⟨_, hop, bind_eq_ok.mpr ⟨v, hv, ?_⟩⟩⟩
    refine bind_eq_ok.mpr ⟨_, map_eq_ok.mpr ⟨kept, hkept, rfl⟩, ?_⟩
    cases hc : w.confidence with
    | none => rfl
    | some x => exact bind_eq_ok.mpr ⟨_, Filter.withConfidence?_of_probability (hprobability x hc), rfl⟩

end WrittenFilter

namespace Filter

/-- A tree is read as a filter exactly if it is read as something written that means the filter. -/
theorem read_eq_ok {src : Source} {d : Document} {f : Filter} :
    Filter.read src d = .ok f ↔ ∃ w, WrittenFilter.shape.read src d = .ok w ∧ w.Means f := by
  unfold Filter.read
  rw [bind_eq_ok]
  refine exists_congr fun w => and_congr_right fun _ => ?_
  rw [← WrittenFilter.toFilter_eq_ok]
  cases w.toFilter with
  | ok g => exact ⟨fun h => congrArg Except.ok (Except.ok.inj h), fun h => congrArg Except.ok (Except.ok.inj h)⟩
  | error e => exact ⟨nofun, nofun⟩

end Filter

/-! ### As JSON -/

/-- A value as JSON. -/
def WrittenValue.toJson : WrittenValue → Json
  | .text s => .str s
  | .set values => .texts values
  | .integer n => .int n

namespace WrittenFilter

/-- What is written, as JSON: every field by its name, and null for what is absent. -/
def toJson (w : WrittenFilter) : Json :=
  .obj [("field", .str w.field), ("op", .str w.op), ("value", (w.value.map WrittenValue.toJson).getD .null),
    ("start", (w.first.map Json.int).getD .null), ("end", (w.last.map Json.int).getD .null),
    ("negate", .bool w.negate), ("confidence", .ofFloat? w.confidence), ("notes", .ofText? w.notes)]

variable {w : WrittenFilter}

/-- What is written is of the types that the fields have: bounds of 32 bits, an integer of 64 bits and a number that
JSON has. -/
structure Held (w : WrittenFilter) : Prop where
  bounds : Filter.BoundsHeld w
  integer : ∀ n, w.value = some (.integer n) → int64.holds n
  confidence : ∀ x ∈ w.confidence, x.isFinite

theorem Held.word (h : w.Held) {n : Int} (hn : w.value = some (.integer n)) : Word n := by
  obtain ⟨hlow, hhigh⟩ := IntRange.holds_iff.mp (h.integer n hn)
  exact ⟨hlow, hhigh.trans (by decide)⟩

theorem writable_bound {o : Option Int} (h : ∀ n ∈ o, int32.holds n) : ((o.map Json.int).getD .null).Writable := by
  cases o with
  | none => exact .null
  | some n => exact .int (Filter.word_of_int32 (h n rfl))

theorem writable_toJson (h : w.Held) : w.toJson.Writable := by
  have hvalue : ((w.value.map WrittenValue.toJson).getD .null).Writable := by
    cases hv : w.value with
    | none => exact .null
    | some v =>
      cases v with
      | text s => exact .str s
      | set values => exact (Filter.wellFormed_texts values).writable
      | integer n => exact .int (h.word hv)
  refine .obj ?_
  simp only [List.forall_mem_cons]
  exact ⟨.str _, .str _, hvalue, writable_bound h.bounds.1, writable_bound h.bounds.2, .bool _,
    Filter.writable_ofFloat? h.confidence, Filter.writable_ofText? _, List.forall_mem_nil _⟩

theorem readField_value (h : w.Held) (r : WrittenFilter) {n : Nat} (hn : 1 < n) :
    readField r "value" ⟨true, n⟩ (toDocument ((w.value.map WrittenValue.toJson).getD .null)) =
      .ok { r with value := w.value } := by
  cases hv : w.value with
  | none => rfl
  | some v =>
    cases v with
    | text s => rfl
    | set values => exact Filter.readField_set values hn
    | integer m =>
      have hword : (Json.int m).int64?.isSome = true := by
        rw [int64?, if_pos (h.integer m hv)]
        rfl
      have hread : readValue ⟨true, n⟩ (toDocument (.int m)) = .ok (.integer m) :=
        bind_eq_ok.mpr ⟨.int m, rfl, if_pos hword⟩
      exact bind_eq_ok.mpr ⟨_, map_eq_ok.mpr ⟨_, hread, rfl⟩, rfl⟩

theorem readField_bound {o : Option Int} (h : ∀ n ∈ o, int32.holds n) (r : WrittenFilter) (src : Source) :
    readField r "start" src (toDocument ((o.map Json.int).getD .null)) = .ok { r with first := o } ∧
      readField r "end" src (toDocument ((o.map Json.int).getD .null)) = .ok { r with last := o } := by
  cases o with
  | none => exact ⟨rfl, rfl⟩
  | some n => exact Filter.readField_bounds (h n rfl) src

/-- What is written is read back. -/
theorem read_toJson (h : w.Held) {n : Nat} (hn : 2 < n) :
    shape.read ⟨true, n⟩ (toDocument w.toJson) = .ok w := by
  refine RecordShape.read_object (by omega) ["notes", "confidence", "negate", "end", "start", "value", "op", "field"]
    ?_ rfl
  refine (RecordShape.readObject_cons rfl rfl rfl).trans ?_
  refine (RecordShape.readObject_cons rfl rfl rfl).trans ?_
  refine (RecordShape.readObject_cons rfl rfl (readField_value h _ (by omega))).trans ?_
  refine (RecordShape.readObject_cons rfl rfl (readField_bound h.bounds.1 _ _).1).trans ?_
  refine (RecordShape.readObject_cons rfl rfl (readField_bound h.bounds.2 _ _).2).trans ?_
  exact Filter.readObject_ends rfl rfl rfl _

/-- What is written is a filter exactly if it means one. -/
theorem decode_eq_ok (h : w.Held) {f : Filter} :
    Json.decode Filter.read w.toJson.compact = .ok f ↔ w.Means f := by
  rw [decode_compact (writable_toJson h), Filter.read_eq_ok, Source.text, read_toJson h (by decide)]
  constructor
  · rintro ⟨_, hw, hmeans⟩
    cases hw
    exact hmeans
  · exact fun hmeans => ⟨w, rfl, hmeans⟩

end WrittenFilter

namespace Filter

/-! ### Where filters come from -/

/-- The filters that there are: what the constructors make and what is read, in any order. -/
inductive Obtained : Filter → Prop where
  | make {field : Field} {op : Operator} {value : FilterValue} {f : Filter} (h : make? field op value = .ok f) :
    Obtained f
  | equals {field : Field} {s : String} {f : Filter} (h : equals? field s = .ok f) : Obtained f
  | contains {field : Field} {s : String} {f : Filter} (h : contains? field s = .ok f) : Obtained f
  | range {field : Field} {first last : Int} {f : Filter} (h : range? field first last = .ok f) : Obtained f
  | oneOf {field : Field} {values : List String} {f : Filter} (h : oneOf? field values = .ok f) : Obtained f
  | negated {f : Filter} (h : Obtained f) (negate : Bool) : Obtained (f.negated negate)
  | withConfidence {f g : Filter} {x : Binary64} (h : Obtained f) (hg : f.withConfidence? x = .ok g) : Obtained g
  | withNotes {f : Filter} (h : Obtained f) (notes : String) : Obtained (f.withNotes notes)
  | read {src : Source} {d : Document} {f : Filter} (h : Filter.read src d = .ok f) : Obtained f

theorem valid_of_obtained {f : Filter} (h : f.Obtained) : f.Valid := by
  induction h with
  | make h | equals h | contains h | range h | oneOf h => exact valid_make h
  | negated _ _ ih | withNotes _ _ ih => exact ⟨ih.value, ih.confidence⟩
  | withConfidence _ hg ih => exact valid_withConfidence ih hg
  | read h => exact (sound_of_read h).valid

/-- All filters are valid, however they come about, and JSON is a filter exactly if what is written in it means one,
which is the one that is read: in any tree, and in the text of whatever can be written. -/
theorem rules_and_grammar :
    (∀ f : Filter, f.Obtained → f.Valid) ∧
    (∀ src d f, Filter.read src d = .ok f ↔ ∃ w, WrittenFilter.shape.read src d = .ok w ∧ w.Means f) ∧
    ∀ w : WrittenFilter, w.Held → ∀ f, Json.decode Filter.read w.toJson.compact = .ok f ↔ w.Means f :=
  ⟨fun _ h => valid_of_obtained h, fun _ _ _ => read_eq_ok, fun _ hw _ => WrittenFilter.decode_eq_ok hw⟩

example : (Json.decode Filter.read "[\" Agent-Norm\",\"IN\",\" Plantin \"]").toOption =
    some ⟨.agentNorm, .oneOf, .set ["Plantin"], false, none, none⟩ := by decide +kernel

end Filter
end Catalogue
