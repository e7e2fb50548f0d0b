import Catalogue.Proofs.Digest.Sha256
import Catalogue.Proofs.Json.Canonical
import Catalogue.Proofs.Plan.Codec

/-! Canonical texts of plans. The canonical text of a plan says all that is written of it: a filter is
had back from its JSON with sorted keys (`sortKeys_toJson_injective`), and two plans have one canonical
text exactly if they agree in every field (`canonical_eq_iff_agrees`). So plans that do not agree have
one hash only if their canonical texts collide (`canonical_faithful`). -/
namespace Catalogue

open Json Number

/-! ### Fields of objects -/

/-- What is found under a key does not depend on the order of the entries. -/
theorem Json.get?_of_sortKeys {es fs : Entries Json} (hes : (es.map (·.1)).Nodup) (hfs : (fs.map (·.1)).Nodup)
    (h : sortKeys (obj es) = sortKeys (obj fs)) (key : String) :
    (Entries.get? key es).map sortKeys = (Entries.get? key fs).map sortKeys := by
  rw [sortKeys_obj, sortKeys_obj, obj.injEq] at h
  have hget := congrArg (Entries.get? key) h
  rwa [Entries.get?_map, Entries.get?_map, Entries.get?_sorted key hes, Entries.get?_sorted key hfs] at hget

theorem Field.name_injective {a b : Field} (h : a.name = b.name) : a = b := by
  have hparse := Field.parse_name a
  rw [h, Field.parse_name b] at hparse
  exact (Except.ok.inj hparse).symm

theorem Operator.name_injective {a b : Operator} (h : a.name = b.name) : a = b := by
  have hparse := Operator.parse_name a
  rw [h, Operator.parse_name b] at hparse
  exact (Except.ok.inj hparse).symm

theorem Json.str_of_sortKeys {s t : String} (h : some (sortKeys (str s)) = some (sortKeys (str t))) : s = t :=
  str.inj (Option.some.inj h)

namespace Filter

/-! ### Filters -/

/-- The entries that a filter is written as. -/
def entries (f : Filter) : Entries Json :=
  [("field", .str f.field.name), ("op", .str f.op.name)] ++ valueEntries f.value ++
    [("negate", .bool f.negate), ("confidence", .ofFloat? f.confidence), ("notes", .ofText? f.notes)]

theorem nodup_entries (f : Filter) : (f.entries.map (·.1)).Nodup := by
  obtain ⟨field, op, value, negate, confidence, notes⟩ := f
  cases value <;> simp [entries, valueEntries]

theorem distinct_texts (values : List String) : (texts values).Distinct :=
  (wellFormed_texts values).ordered.distinct

theorem distinct_toJson (f : Filter) : f.toJson.Distinct := by
  have hconfidence : (ofFloat? f.confidence).Distinct := by
    cases f.confidence with
    | none => exact .null
    | some x => exact .float x
  have hnotes : (ofText? f.notes).Distinct := by
    cases f.notes with
    | none => exact .null
    | some s => exact .str s
  have hvalue : ∀ e ∈ valueEntries f.value, e.2.Distinct := by
    cases f.value with
    | text s => exact List.forall_mem_singleton.mpr (.str s)
    | range first last => exact List.forall_mem_cons.mpr ⟨.int first, List.forall_mem_singleton.mpr (.int last)⟩
    | set values => exact List.forall_mem_singleton.mpr (distinct_texts values)
  refine .obj (nodup_entries f) ?_
  simp only [List.forall_mem_append, List.forall_mem_cons]
  exact ⟨⟨⟨.str _, .str _, List.forall_mem_nil _⟩, hvalue⟩, .bool _, hconfidence, hnotes, List.forall_mem_nil _⟩

theorem ofFloat?_of_sortKeys {x y : Option Binary64} (h : sortKeys (ofFloat? x) = sortKeys (ofFloat? y)) :
    x = y := by
  cases x <;> cases y <;> cases h <;> rfl

theorem ofText?_of_sortKeys {s t : Option String} (h : sortKeys (ofText? s) = sortKeys (ofText? t)) : s = t := by
  cases s <;> cases t <;> cases h <;> rfl

/-- The value of a filter is had back from what is found under the keys that it may be written under. -/
theorem value_of_entries {f g : Filter}
    (h : ∀ key, (Entries.get? key f.entries).map sortKeys = (Entries.get? key g.entries).map sortKeys) :
    f.value = g.value := by
  have htexts (values : List String) : sortKeys (texts values) = texts values :=
    sortKeys_of_ordered (wellFormed_texts values).ordered
  obtain ⟨field, op, value, negate, confidence, notes⟩ := f
  obtain ⟨field', op', value', negate', confidence', notes'⟩ := g
  cases value with
  | text s =>
    cases value' with
    | text t => exact congrArg FilterValue.text (str_of_sortKeys (h "value"))
    | range first last => exact absurd (h "start") nofun
    | set values =>
      have hvalue : some (str s) = some (sortKeys (texts values)) := h "value"
      rw [htexts] at hvalue
      cases hvalue
  | range first last =>
    cases value' with
    | range first' last' =>
      have hfirst : some (int first) = some (int first') := h "start"
      have hlast : some (int last) = some (int last') := h "end"
      cases hfirst
      cases hlast
      rfl
    | text t => exact absurd (h "start") nofun
    | set values => exact absurd (h "start") nofun
  | set values =>
    cases value' with
    | text t =>
      have hvalue : some (sortKeys (texts values)) = some (str t) := h "value"
      rw [htexts] at hvalue
      cases hvalue
    | range first last => exact absurd (h "start") nofun
    | set values' =>
      have hvalue : some (sortKeys (texts values)) = some (sortKeys (texts values')) := h "value"
      rw [htexts, htexts] at hvalue
      have hmap := arr.inj (Option.some.inj hvalue)
      exact congrArg FilterValue.set (List.map_injective_iff.mpr (fun _ _ => str.inj) hmap)

/-- A filter is had back from its JSON, whatever the order of the entries. -/
theorem sortKeys_toJson_injective {f g : Filter} (h : sortKeys f.toJson = sortKeys g.toJson) : f = g := by
  have hget := get?_of_sortKeys (nodup_entries f) (nodup_entries g) h
  have hvalue := value_of_entries hget
  obtain ⟨field, op, value, negate, confidence, notes⟩ := f
  obtain ⟨field', op', value', negate', confidence', notes'⟩ := g
  obtain rfl : value = value' := hvalue
  have hfield := Field.name_injective (str_of_sortKeys (hget "field"))
  have hop := Operator.name_injective (str_of_sortKeys (hget "op"))
  have hends : negate = negate' ∧ confidence = confidence' ∧ notes = notes' := by
    cases value <;> exact ⟨bool.inj (Option.some.inj (hget "negate")),
      ofFloat?_of_sortKeys (Option.some.inj (hget "confidence")),
      ofText?_of_sortKeys (Option.some.inj (hget "notes"))⟩
  obtain ⟨rfl, rfl, rfl⟩ := hends
  subst hfield
  subst hop
  rfl

end Filter

namespace Plan

/-! ### Plans -/

/-- A plan that can be held in memory, of any version and with any limit. -/
structure Held (p : Plan) : Prop where
  version : nat32.holds p.version
  filters : ∀ f ∈ p.filters, f.Sound
  softFilters : ∀ f ∈ p.softFilters, f.Sound
  limit : ∀ n ∈ p.limit, (n : Int) ≤ nat64.high
  keys : Entries.Ascending p.debug
  debug : ∀ e ∈ p.debug, e.2.Proper

/-- Plans all of whose fields agree; of debug values the order of entries does not count. -/
structure Agrees (p q : Plan) : Prop where
  version : p.version = q.version
  queryText : p.queryText = q.queryText
  filters : p.filters = q.filters
  softFilters : p.softFilters = q.softFilters
  limit : p.limit = q.limit
  debug : Same (.obj p.debug) (.obj q.debug)

/-- The entries that a plan is written as. -/
def entries (p : Plan) : Entries Json :=
  [("version", .nat p.version), ("query_text", .str p.queryText),
    ("filters", .arr (p.filters.map Filter.toJson)), ("soft_filters", .arr (p.softFilters.map Filter.toJson)),
    ("limit", limitJson p.limit), ("debug", .obj p.debug)]

theorem nodup_entries (p : Plan) : (p.entries.map (·.1)).Nodup := by
  simp [entries]

theorem distinct_filters (fs : List Filter) : (arr (fs.map Filter.toJson)).Distinct :=
  .arr (List.forall_mem_map.mpr fun f _ => Filter.distinct_toJson f)

theorem Held.distinct_debug {p : Plan} (h : p.Held) : (obj p.debug).Distinct :=
  .obj h.keys.nodup fun e he => (h.debug e he).distinct

/-- A plan that can be held is a JSON value. -/
theorem Held.proper {p : Plan} (h : p.Held) : p.toJson.Proper := by
  have hlimit : (limitJson p.limit).Distinct := by
    cases p.limit with
    | none => exact .null
    | some n => exact .int n
  refine ⟨writable_of_parts h.version h.filters h.softFilters h.limit fun e he => (h.debug e he).writable, ?_⟩
  rw [toJson_eq]
  refine .obj (nodup_entries p) ?_
  simp only [List.forall_mem_cons]
  exact ⟨.int _, .str _, distinct_filters _, distinct_filters _, hlimit, h.distinct_debug, List.forall_mem_nil _⟩

theorem limit_of_sortKeys {m n : Option Nat} (h : sortKeys (limitJson m) = sortKeys (limitJson n)) : m = n := by
  cases m with
  | none =>
    cases n with
    | none => rfl
    | some n => cases h
  | some m =>
    cases n with
    | none => cases h
    | some n => exact congrArg some (Int.ofNat.inj (int.inj h))

theorem filters_of_sortKeys {fs gs : List Filter}
    (h : sortKeys (arr (fs.map Filter.toJson)) = sortKeys (arr (gs.map Filter.toJson))) : fs = gs := by
  rw [sortKeys_arr, sortKeys_arr, arr.injEq, List.map_map, List.map_map] at h
  exact List.map_injective_iff.mpr (fun _ _ => Filter.sortKeys_toJson_injective) h

/-- All that a plan is made of is had back from its JSON, whatever the order of the entries. -/
theorem sortKeys_toJson_iff {p q : Plan} (hp : p.Held) (hq : q.Held) :
    sortKeys p.toJson = sortKeys q.toJson ↔ p.Agrees q := by
  rw [toJson_eq, toJson_eq]
  constructor
  · intro h
    have hget := get?_of_sortKeys (nodup_entries p) (nodup_entries q) h
    have hversion : int p.version = int q.version := Option.some.inj (hget "version")
    exact {
      version := Int.ofNat.inj (int.inj hversion)
      queryText := str_of_sortKeys (hget "query_text")
      filters := filters_of_sortKeys (Option.some.inj (hget "filters"))
      softFilters := filters_of_sortKeys (Option.some.inj (hget "soft_filters"))
      limit := limit_of_sortKeys (Option.some.inj (hget "limit"))
      debug := (sortKeys_eq_iff hp.distinct_debug hq.distinct_debug).mp (Option.some.inj (hget "debug")) }
  · intro h
    have hdebug := (sortKeys_eq_iff hp.distinct_debug hq.distinct_debug).mpr h.debug
    rw [sortKeys_obj, sortKeys_obj, ← Entries.sorted_map, ← Entries.sorted_map]
    simp only [List.map_cons, h.version, h.queryText, h.filters, h.softFilters, h.limit, hdebug]

/-- Two plans have one canonical text exactly if all their fields agree. -/
theorem canonical_eq_iff_agrees {p q : Plan} (hp : p.Held) (hq : q.Held) :
    p.canonical = q.canonical ↔ p.Agrees q := by
  have hp' := hp.proper
  have hq' := hq.proper
  rw [← sortKeys_toJson_iff hp hq, sortKeys_eq_iff hp'.distinct hq'.distinct]
  exact canonical_eq_iff hp' hq'

/-- The canonical text of a JSON value is canonical for it, and no other value has it; plans have one canonical
text exactly if they agree, and one hash exactly if they agree or their canonical texts collide. -/
theorem canonical_faithful {v w : Json} (hv : v.Proper) (hw : w.Proper) {p q : Plan} (hp : p.Held) (hq : q.Held) :
    IsCanonical v.canonical v ∧ (v.canonical = w.canonical ↔ Same v w) ∧
      (p.canonical = q.canonical ↔ p.Agrees q) ∧
      (p.hash = q.hash ↔ p.Agrees q ∨
        Digest.Collide (Text.Utf8.encode p.canonical) (Text.Utf8.encode q.canonical)) := by
  have hplans := canonical_eq_iff_agrees hp hq
  refine ⟨isCanonical hv, canonical_eq_iff hv hw, hplans, ?_⟩
  rw [← hplans]
  exact Digest.sha256Hex_eq_iff

/-- An object whose keys are not in order, with minus zero inside. -/
def unsorted : Json := .obj [("b", .obj [("z", .int 1), ("a", .float ⟨0x8000000000000000⟩)]), ("a", .null)]

/-- The same entries in order. -/
def resorted : Json := .obj [("a", .null), ("b", .obj [("a", .float ⟨0x8000000000000000⟩), ("z", .int 1)])]

theorem proper_unsorted : unsorted.Proper := by
  have hminus : Json.Writable (.float ⟨0x8000000000000000⟩) := .float (by decide)
  have hone : Json.Writable (.int 1) := .int ⟨by decide, by decide⟩
  constructor
  · refine .obj (List.forall_mem_cons.mpr ⟨.obj ?_, List.forall_mem_singleton.mpr .null⟩)
    exact List.forall_mem_cons.mpr ⟨hone, List.forall_mem_singleton.mpr hminus⟩
  · refine .obj (by simp) (List.forall_mem_cons.mpr ⟨.obj (by simp) ?_, List.forall_mem_singleton.mpr .null⟩)
    exact List.forall_mem_cons.mpr ⟨.int 1, List.forall_mem_singleton.mpr (.float _)⟩

theorem proper_resorted : resorted.Proper := by
  have hsorted : sortKeys unsorted = resorted := by rfl
  rw [← hsorted]
  exact ⟨writable_sortKeys proper_unsorted.writable, (ordered_sortKeys _).distinct⟩

theorem same_resorted : Same unsorted resorted := by
  have hinner : Same (.obj [("z", .int 1), ("a", .float ⟨0x8000000000000000⟩)])
      (.obj [("a", .float ⟨0x8000000000000000⟩), ("z", .int 1)]) :=
    .obj (.swap ..) (.refl _) rfl (.cons (.float _) (.cons (.int 1) .nil))
  exact .obj (.swap ..) (.refl _) rfl (.cons .null (.cons hinner .nil))

/-- A plan with a debug value. -/
def noted (value : Json) : Plan := (ofText "q").withDebug "note" value

theorem held_noted {value : Json} (h : value.Proper) : (noted value).Held where
  version := rfl
  filters := List.forall_mem_nil _
  softFilters := List.forall_mem_nil _
  limit := fun _ h => absurd h (Option.not_mem_none _)
  keys := List.pairwise_singleton _ _
  debug := List.forall_mem_singleton.mpr h

/-- Two orders of the same entries have one canonical text, and make one hash of a plan. -/
theorem canonical_faithful_unsorted : IsCanonical unsorted.canonical unsorted ∧
    unsorted.canonical = resorted.canonical ∧ (noted unsorted).hash = (noted resorted).hash := by
  have hdebug : Same (.obj (noted unsorted).debug) (.obj (noted resorted).debug) :=
    .obj (.refl _) (.refl _) rfl (.cons same_resorted .nil)
  obtain ⟨hcanonical, hvalues, -, hhash⟩ := canonical_faithful proper_unsorted proper_resorted
    (held_noted proper_unsorted) (held_noted proper_resorted)
  exact ⟨hcanonical, hvalues.mpr same_resorted, hhash.mpr (.inl ⟨rfl, rfl, rfl, rfl, rfl, hdebug⟩)⟩

end Plan
end Catalogue
