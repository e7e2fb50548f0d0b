import Catalogue.Filter.Codec
import Catalogue.Proofs.Filter.Rules
import Catalogue.Proofs.Json.Reading

/-! Filters and their JSON. A sound filter is read back from its JSON (`read_toJson`),
and every filter that is read is sound (`sound_of_read`), in whatever form it is written. -/
namespace Catalogue

open Json Number

/-! ### Names -/

theorem Field.parse_name (field : Field) : Field.parse field.name = .ok field := by
  cases field <;> rfl

theorem Operator.parse_name (op : Operator) : Operator.parse op.name = .ok op := by
  cases op <;> rfl

namespace Filter

/-! ### From the filter to its JSON -/

/-- The filter as it is written. -/
def written (f : Filter) : WrittenFilter where
  field := f.field.name
  op := f.op.name
  value := match f.value with
    | .text s => some (.text s)
    | .range _ _ => none
    | .set values => some (.set values)
  first := match f.value with
    | .range first _ => some first
    | _ => none
  last := match f.value with
    | .range _ last => some last
    | _ => none
  negate := f.negate
  confidence := f.confidence
  notes := f.notes

/-- What is written of a sound filter makes the filter. -/
theorem toFilter_written {f : Filter} (h : f.Sound) : f.written.toFilter = .ok f := by
  obtain ⟨field, op, value, negate, confidence, notes⟩ := f
  have hfits := h.valid.value
  have hvalue : WrittenFilter.valueFor field op (written ⟨field, op, value, negate, confidence, notes⟩) =
      .ok value := by
    cases op <;> cases value <;> first | rfl | exact hfits.elim
  have hcheck := checkValue_of_fits hfits
  have hmake : make? field op value = .ok ⟨field, op, value, false, none, none⟩ := map_eq_ok.mpr ⟨_, hcheck, rfl⟩
  refine bind_eq_ok.mpr ⟨_, Field.parse_name field, bind_eq_ok.mpr ⟨_, Operator.parse_name op, ?_⟩⟩
  refine bind_eq_ok.mpr ⟨_, hvalue, bind_eq_ok.mpr ⟨_, hmake, ?_⟩⟩
  cases confidence with
  | none => rfl
  | some x => exact bind_eq_ok.mpr ⟨_, withConfidence?_of_probability (h.valid.confidence x rfl), rfl⟩

theorem word_of_int32 {n : Int} (h : int32.holds n) : Word n := by
  obtain ⟨hlow, hhigh⟩ := IntRange.holds_iff.mp h
  exact ⟨le_trans (by decide) hlow, le_trans hhigh (by decide)⟩

theorem wellFormed_texts (values : List String) : (texts values).WellFormed := by
  refine ⟨.arr fun v hv => ?_, .arr fun v hv => ?_⟩
  · obtain ⟨s, -, rfl⟩ := List.mem_map.mp hv
    exact .str s
  · obtain ⟨s, -, rfl⟩ := List.mem_map.mp hv
    exact .str s

theorem depth_texts (values : List String) : (texts values).depth ≤ 1 := by
  refine depth_arr_le_iff.mpr fun v hv => ?_
  obtain ⟨s, -, rfl⟩ := List.mem_map.mp hv
  exact Nat.le_refl _

/-- A filter is not nested deeper than its set of texts. -/
theorem depth_toJson (f : Filter) : f.toJson.depth ≤ 2 := by
  obtain ⟨field, op, value, negate, confidence, notes⟩ := f
  have hvalue : ∀ e ∈ valueEntries value, e.2.depth ≤ 1 := by
    cases value with
    | text s => exact List.forall_mem_singleton.mpr (Nat.zero_le _)
    | range first last =>
      exact List.forall_mem_cons.mpr ⟨Nat.zero_le _, List.forall_mem_singleton.mpr (Nat.zero_le _)⟩
    | set values => exact List.forall_mem_singleton.mpr (depth_texts values)
  have hconfidence : (ofFloat? confidence).depth ≤ 1 := by cases confidence <;> exact Nat.zero_le _
  have hnotes : (ofText? notes).depth ≤ 1 := by cases notes <;> exact Nat.zero_le _
  refine depth_obj_le_iff.mpr ?_
  simp only [List.forall_mem_append, List.forall_mem_cons]
  exact ⟨⟨⟨Nat.zero_le _, Nat.zero_le _, List.forall_mem_nil _⟩, hvalue⟩, Nat.zero_le _, hconfidence, hnotes,
    List.forall_mem_nil _⟩

theorem writable_ofFloat? {o : Option Binary64} (h : ∀ x ∈ o, x.isFinite) : (ofFloat? o).Writable := by
  cases o with
  | none => exact .null
  | some x => exact .float (h x rfl)

theorem writable_ofText? (o : Option String) : (ofText? o).Writable := by
  cases o with
  | none => exact .null
  | some s => exact .str s

/-- A sound filter can be written. -/
theorem writable_toJson {f : Filter} (h : f.Sound) : f.toJson.Writable := by
  obtain ⟨field, op, value, negate, confidence, notes⟩ := f
  have hvalue : ∀ e ∈ valueEntries value, e.2.Writable := by
    have hheld := h.held
    cases value with
    | text s => exact List.forall_mem_singleton.mpr (.str s)
    | set values => exact List.forall_mem_singleton.mpr (wellFormed_texts values).writable
    | range first last =>
      exact List.forall_mem_cons.mpr ⟨.int (word_of_int32 hheld.1),
        List.forall_mem_singleton.mpr (.int (word_of_int32 hheld.2))⟩
  have hconfidence : (ofFloat? confidence).Writable := writable_ofFloat? fun x hx => (h.valid.confidence x hx).1
  refine .obj ?_
  simp only [List.forall_mem_append, List.forall_mem_cons]
  exact ⟨⟨⟨.str _, .str _, List.forall_mem_nil _⟩, hvalue⟩, .bool _, hconfidence, writable_ofText? notes,
    List.forall_mem_nil _⟩

/-! ### From the JSON to the filter -/

theorem mapM_str? (values : List String) : (values.map str).mapM Json.str? = some values := by
  induction values with
  | nil => rfl
  | cons s rest ih => simp [Json.str?, ih]

theorem readValue_texts (values : List String) {n : Nat} (hn : 1 < n) :
    WrittenFilter.readValue ⟨true, n⟩ (toDocument (texts values)) = .ok (.set values) := by
  have hread := readAny_toDocument (texts values) (wellFormed_texts values).ordered
    (Nat.lt_of_le_of_lt (depth_texts values) hn)
  rw [WrittenFilter.readValue, hread]
  simp only [texts, bind, Except.bind, mapM_str?]
  rfl

theorem readBound_int {n : Int} (h : int32.holds n) (src : Source) :
    WrittenFilter.readBound src (toDocument (.int n)) = .ok n :=
  readInt_int h src

/-! One field at a time. -/

theorem readField_bounds {w : WrittenFilter} {n : Int} (h : int32.holds n) (src : Source) :
    WrittenFilter.readField w "start" src (toDocument (.int n)) = .ok { w with first := some n } ∧
      WrittenFilter.readField w "end" src (toDocument (.int n)) = .ok { w with last := some n } := by
  have hread : readOption WrittenFilter.readBound src (toDocument (.int n)) = .ok (some n) :=
    map_eq_ok.mpr ⟨n, readBound_int h src, rfl⟩
  exact ⟨bind_eq_ok.mpr ⟨_, hread, rfl⟩, bind_eq_ok.mpr ⟨_, hread, rfl⟩⟩

theorem readField_set {w : WrittenFilter} (values : List String) {n : Nat} (hn : 1 < n) :
    WrittenFilter.readField w "value" ⟨true, n⟩ (toDocument (texts values)) =
      .ok { w with value := some (.set values) } := by
  have hread : readOption WrittenFilter.readValue ⟨true, n⟩ (toDocument (texts values)) = .ok (some (.set values)) :=
    map_eq_ok.mpr ⟨_, readValue_texts values hn, rfl⟩
  exact bind_eq_ok.mpr ⟨_, hread, rfl⟩

theorem readField_confidence (w : WrittenFilter) (x : Option Binary64) (src : Source) :
    WrittenFilter.readField w "confidence" src (toDocument (ofFloat? x)) = .ok { w with confidence := x } := by
  cases x <;> rfl

theorem readField_notes (w : WrittenFilter) (s : Option String) (src : Source) :
    WrittenFilter.readField w "notes" src (toDocument (ofText? s)) = .ok { w with notes := s } := by
  cases s <;> rfl

theorem readObject_ends {negate : Bool} {confidence : Option Binary64} {notes : Option String} {src : Source}
    {seen : List String} (hnegate : seen.contains "negate" = false)
    (hconfidence : seen.contains "confidence" = false) (hnotes : seen.contains "notes" = false)
    (w : WrittenFilter) :
    WrittenFilter.shape.readObject src seen w
      (toEntries [("negate", .bool negate), ("confidence", ofFloat? confidence), ("notes", ofText? notes)]) =
    .ok ("notes" :: "confidence" :: "negate" :: seen,
      { w with negate := negate, confidence := confidence, notes := notes }) := by
  have hconfidence' : ("negate" :: seen).contains "confidence" = false := by
    rw [List.contains_cons, hconfidence]
    rfl
  have hnotes' : ("confidence" :: "negate" :: seen).contains "notes" = false := by
    rw [List.contains_cons, List.contains_cons, hnotes]
    rfl
  refine (RecordShape.readObject_cons rfl hnegate rfl).trans ?_
  refine (RecordShape.readObject_cons rfl hconfidence' (readField_confidence _ confidence src)).trans ?_
  exact RecordShape.readObject_cons rfl hnotes' (readField_notes _ notes src)

/-- What is read from a sound filter's JSON is what is written of it. -/
theorem read_written {f : Filter} (h : f.Sound) {n : Nat} (hn : 2 < n) :
    WrittenFilter.shape.read ⟨true, n⟩ (toDocument f.toJson) = .ok f.written := by
  obtain ⟨field, op, value, negate, confidence, notes⟩ := f
  have hheld := h.held
  have hname (rest : List (StringContent × Document)) :
      WrittenFilter.shape.readObject ⟨true, n - 1⟩ [] WrittenFilter.shape.empty
        (toEntries [("field", .str field.name), ("op", .str op.name)] ++ rest) =
      WrittenFilter.shape.readObject ⟨true, n - 1⟩ ["op", "field"]
        { WrittenFilter.shape.empty with field := field.name, op := op.name } rest := by
    refine (RecordShape.readObject_cons rfl rfl rfl).trans ?_
    exact RecordShape.readObject_cons rfl rfl rfl
  cases value with
  | text s =>
    refine RecordShape.read_object (by omega) ["notes", "confidence", "negate", "value", "op", "field"]
      ((hname _).trans ?_) rfl
    refine (RecordShape.readObject_cons rfl rfl rfl).trans ?_
    exact readObject_ends rfl rfl rfl _
  | range first last =>
    refine RecordShape.read_object (by omega) ["notes", "confidence", "negate", "end", "start", "op", "field"]
      ((hname _).trans ?_) rfl
    refine (RecordShape.readObject_cons rfl rfl (readField_bounds hheld.1 _).1).trans ?_
    refine (RecordShape.readObject_cons rfl rfl (readField_bounds hheld.2 _).2).trans ?_
    exact readObject_ends rfl rfl rfl _
  | set values =>
    refine RecordShape.read_object (by omega) ["notes", "confidence", "negate", "value", "op", "field"]
      ((hname _).trans ?_) rfl
    refine (RecordShape.readObject_cons rfl rfl (readField_set values (by omega))).trans ?_
    exact readObject_ends rfl rfl rfl _

/-- A sound filter is read back from its JSON. -/
theorem read_toJson {f : Filter} (h : f.Sound) {n : Nat} (hn : 2 < n) :
    Filter.read ⟨true, n⟩ (toDocument f.toJson) = .ok f := by
  rw [Filter.read, read_written h hn]
  simp only [bind, Except.bind, toFilter_written h]
  rfl

/-! ### From any tree to a filter -/

/-- Bounds that are integers of 32 bits. -/
def BoundsHeld (w : WrittenFilter) : Prop :=
  (∀ n ∈ w.first, int32.holds n) ∧ ∀ n ∈ w.last, int32.holds n

theorem boundsHeld_empty : BoundsHeld WrittenFilter.shape.empty :=
  ⟨fun _ h => absurd h (Option.not_mem_none _), fun _ h => absurd h (Option.not_mem_none _)⟩

theorem held_valueFor {field : Field} {op : Operator} {w : WrittenFilter} (hw : BoundsHeld w) {value : FilterValue}
    (h : WrittenFilter.valueFor field op w = .ok value) : value.Held := by
  unfold WrittenFilter.valueFor at h
  split at h <;> cases h
  · rename_i hfirst hlast
    exact ⟨hw.1 _ hfirst, hw.2 _ hlast⟩
  all_goals trivial

theorem sound_toFilter {w : WrittenFilter} (hw : BoundsHeld w) {f : Filter} (h : w.toFilter = .ok f) : f.Sound := by
  unfold WrittenFilter.toFilter at h
  obtain ⟨field, -, h⟩ := bind_eq_ok.mp h
  obtain ⟨op, -, h⟩ := bind_eq_ok.mp h
  obtain ⟨value, hvalue, h⟩ := bind_eq_ok.mp h
  obtain ⟨g, hg, h⟩ := bind_eq_ok.mp h
  have hsound := sound_make (held_valueFor hw hvalue) hg
  have hnegated : (g.negated w.negate).Sound := ⟨⟨hsound.valid.value, hsound.valid.confidence⟩, hsound.held⟩
  have hnotes {k : Filter} (hk : k.Sound) : Filter.Sound { k with notes := w.notes } :=
    ⟨⟨hk.valid.value, hk.valid.confidence⟩, hk.held⟩
  cases hc : w.confidence with
  | none =>
    simp only [hc] at h
    cases h
    exact hnotes hnegated
  | some x =>
    simp only [hc] at h
    obtain ⟨k, hk, h⟩ := bind_eq_ok.mp h
    cases h
    exact hnotes (sound_withConfidence hnegated hk)

theorem boundsHeld_readField {w w' : WrittenFilter} {name : String} {src : Source} {d : Document}
    (hw : BoundsHeld w) (h : WrittenFilter.readField w name src d = .ok w') : BoundsHeld w' := by
  unfold WrittenFilter.readField at h
  split at h
  all_goals obtain ⟨v, hv, h⟩ := bind_eq_ok.mp h
  all_goals cases h
  case h_4 => exact ⟨fun _ hm => holds_of_readInt (mem_readOption hv hm), hw.2⟩
  case h_5 => exact ⟨hw.1, fun _ hm => holds_of_readInt (mem_readOption hv hm)⟩
  all_goals exact ⟨hw.1, hw.2⟩

/-- Every filter that is read is sound. -/
theorem sound_of_read {src : Source} {d : Document} {f : Filter} (h : Filter.read src d = .ok f) : f.Sound := by
  unfold Filter.read at h
  obtain ⟨w, hw, h⟩ := bind_eq_ok.mp h
  have hparts : d.Parts fun _ => True := by
    cases d <;> simp [Document.Parts]
  have hheld : BoundsHeld w := RecordShape.read_preserves boundsHeld_empty
    (fun _ hr _ h => boundsHeld_readField hr h) hparts hw
  split at h
  · rename_i hf
    cases h
    exact sound_toFilter hheld hf
  · cases h

end Filter
end Catalogue
