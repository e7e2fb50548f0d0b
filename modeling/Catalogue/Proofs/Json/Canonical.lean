import Catalogue.Proofs.Json.Document
import Catalogue.Proofs.Text.Utf8

/-! Canonical texts. The canonical text of a value is the compact text of the value with sorted
keys. Its tree is read at any depth of nesting, so it can be said of the text itself that the keys
of every object in it ascend, and the value is had back from it (`isCanonical`). Sorting makes two
values equal exactly if they are the same but for the order of entries (`sortKeys_eq_iff`), and a
text has one tree, so values have one canonical text exactly if they are the same
(`canonical_eq_iff`). -/
namespace Catalogue.Json

open Text.Utf8 (encode)
open Index.Cell (compareBytes)

/-! ### Parts -/

/-- What holds of a value as soon as it holds of its items or entries, holds of every value. -/
@[elab_as_elim]
theorem parts_induction {P : Json → Prop} (null : P null) (bool : ∀ b, P (bool b)) (int : ∀ n, P (int n))
    (float : ∀ x, P (float x)) (str : ∀ s, P (str s)) (arr : ∀ items, (∀ v ∈ items, P v) → P (arr items))
    (obj : ∀ entries : Entries Json, (∀ e ∈ entries, P e.2) → P (obj entries)) (v : Json) : P v :=
  match v with
  | .null => null
  | .bool b => bool b
  | .int n => int n
  | .float x => float x
  | .str s => str s
  | .arr items => arr items fun v _ => parts_induction null bool int float str arr obj v
  | .obj entries => obj entries fun (_, v) _ => parts_induction null bool int float str arr obj v
termination_by sizeOf v
decreasing_by
  · rename_i hv
    have hlt := List.sizeOf_lt_of_mem hv
    simp only [Json.arr.sizeOf_spec]
    omega
  · rename_i he
    have hlt := List.sizeOf_lt_of_mem he
    simp only [Prod.mk.sizeOf_spec] at hlt
    simp only [Json.obj.sizeOf_spec]
    omega

/-- Lists whose members are related one for one exactly if their images are equal. -/
theorem forall₂_iff_map_eq {α β γ : Type} {R : α → β → Prop} {f : α → γ} {g : β → γ} {as : List α} {bs : List β}
    (h : ∀ a ∈ as, ∀ b ∈ bs, R a b ↔ f a = g b) : List.Forall₂ R as bs ↔ as.map f = bs.map g := by
  induction as generalizing bs with
  | nil =>
    cases bs with
    | nil => simp
    | cons b bs => simp
  | cons a as ih =>
    cases bs with
    | nil => simp
    | cons b bs =>
      have hrest := ih fun x hx y hy => h x (List.mem_cons_of_mem a hx) y (List.mem_cons_of_mem b hy)
      have hfirst := h a List.mem_cons_self b List.mem_cons_self
      rw [List.forall₂_cons, hfirst, hrest, List.map_cons, List.map_cons, List.cons.injEq]

/-! ### Values -/

/-- A value in which no object has a key twice. -/
inductive Distinct : Json → Prop where
  | null : Distinct null
  | bool (b : Bool) : Distinct (bool b)
  | int (n : Int) : Distinct (int n)
  | float (x : Number.Binary64) : Distinct (float x)
  | str (s : String) : Distinct (str s)
  | arr {items : List Json} (h : ∀ v ∈ items, Distinct v) : Distinct (arr items)
  | obj {entries : Entries Json} (hkeys : (entries.map (·.1)).Nodup) (h : ∀ e ∈ entries, Distinct e.2) :
      Distinct (obj entries)

/-- A JSON value, whatever the order of its entries: integers are of 64 bits, other numbers are
finite, and no object has a key twice. -/
structure Proper (v : Json) : Prop where
  writable : v.Writable
  distinct : v.Distinct

/-- Values that are the same but for the order in which objects have their entries: the entries of
both can be brought into an order in which they have the same keys and the same values. Floats are
the same if their bits are. -/
inductive Same : Json → Json → Prop where
  | null : Same null null
  | bool (b : Bool) : Same (bool b) (bool b)
  | int (n : Int) : Same (int n) (int n)
  | float (x : Number.Binary64) : Same (float x) (float x)
  | str (s : String) : Same (str s) (str s)
  | arr {as bs : List Json} (h : List.Forall₂ Same as bs) : Same (arr as) (arr bs)
  | obj {es es' fs fs' : Entries Json} (hes : es.Perm es') (hfs : fs.Perm fs')
      (hkeys : es'.map (·.1) = fs'.map (·.1)) (hvalues : List.Forall₂ Same (es'.map (·.2)) (fs'.map (·.2))) :
      Same (obj es) (obj fs)

theorem Ordered.distinct {v : Json} (h : v.Ordered) : v.Distinct := by
  induction h with
  | null => exact .null
  | bool b => exact .bool b
  | int n => exact .int n
  | float x => exact .float x
  | str s => exact .str s
  | arr _ ih => exact .arr ih
  | obj hkeys _ ih => exact .obj hkeys.nodup ih

/-! ### Sorting keys -/

theorem sortKeys_arr (items : List Json) : sortKeys (arr items) = arr (items.map sortKeys) := by
  have hitems (items : List Json) : sortKeysItems items = items.map sortKeys := by
    induction items with
    | nil => rfl
    | cons v rest ih => rw [sortKeysItems, ih, List.map_cons]
  rw [sortKeys, hitems]

theorem sortKeys_obj (entries : Entries Json) :
    sortKeys (obj entries) = obj ((Entries.sorted entries).map fun e => (e.1, sortKeys e.2)) := by
  have hentries (entries : Entries Json) :
      sortKeysEntries entries = entries.map fun e => (e.1, sortKeys e.2) := by
    induction entries with
    | nil => rfl
    | cons e rest ih =>
      obtain ⟨k, v⟩ := e
      rw [sortKeysEntries, ih, List.map_cons]
  rw [sortKeys, hentries, Entries.sorted_map]

/-- Sorted keys ascend. -/
theorem ordered_sortKeys (v : Json) : (sortKeys v).Ordered := by
  induction v using parts_induction with
  | null => exact .null
  | bool b => exact .bool b
  | int n => exact .int n
  | float x => exact .float x
  | str s => exact .str s
  | arr items ih =>
    rw [sortKeys_arr]
    exact .arr (List.forall_mem_map.mpr ih)
  | obj entries ih =>
    rw [sortKeys_obj]
    refine .obj ?_ (List.forall_mem_map.mpr fun e he => ih e (Entries.mem_of_mem_sorted he))
    exact List.pairwise_map.mpr (Entries.ascending_sorted entries)

theorem writable_sortKeys {v : Json} (h : v.Writable) : (sortKeys v).Writable := by
  induction h with
  | null => exact .null
  | bool b => exact .bool b
  | int h => exact .int h
  | float h => exact .float h
  | str s => exact .str s
  | arr _ ih =>
    rw [sortKeys_arr]
    exact .arr (List.forall_mem_map.mpr ih)
  | obj _ ih =>
    rw [sortKeys_obj]
    exact .obj (List.forall_mem_map.mpr fun e he => ih e (Entries.mem_of_mem_sorted he))

/-- Sorting keys nests nothing deeper. -/
theorem depth_sortKeys (v : Json) : (sortKeys v).depth ≤ v.depth := by
  induction v using parts_induction with
  | arr items ih =>
    rw [sortKeys_arr]
    refine depth_arr_le_iff.mpr (List.forall_mem_map.mpr fun v hv => (ih v hv).trans ?_)
    exact depthItems_le_iff.mp (Nat.le_refl _) v hv
  | obj entries ih =>
    rw [sortKeys_obj]
    refine depth_obj_le_iff.mpr (List.forall_mem_map.mpr fun e he => ?_)
    have hmem := Entries.mem_of_mem_sorted he
    exact (ih e hmem).trans (depthEntries_le_iff.mp (Nat.le_refl _) e hmem)
  | _ => exact Nat.le_refl _

/-- A value whose keys ascend stays as it is. -/
theorem sortKeys_of_ordered {v : Json} (h : v.Ordered) : sortKeys v = v := by
  induction h with
  | arr _ ih => rw [sortKeys_arr, List.map_congr_left ih, List.map_id']
  | obj hkeys _ ih =>
    have hsame : ∀ e ∈ _, (e.1, sortKeys e.2) = e := fun e he => Prod.ext rfl (ih e he)
    rw [sortKeys_obj, Entries.sorted_of_ascending hkeys, List.map_congr_left hsame, List.map_id']
  | _ => rfl

/-- Entries with the same keys and the same values. -/
theorem map_sortKeys_iff {es fs : Entries Json} :
    (es.map fun e => (e.1, sortKeys e.2)) = (fs.map fun e => (e.1, sortKeys e.2)) ↔
      es.map (·.1) = fs.map (·.1) ∧ (es.map (·.2)).map sortKeys = (fs.map (·.2)).map sortKeys := by
  constructor
  · intro h
    have hkeys := congrArg (List.map (·.1)) h
    have hvalues := congrArg (List.map (·.2)) h
    simp only [List.map_map] at hkeys hvalues ⊢
    exact ⟨hkeys, hvalues⟩
  · rintro ⟨hkeys, hvalues⟩
    have hzip (gs : Entries Json) : (gs.map fun e => (e.1, sortKeys e.2)) =
        (gs.map (·.1)).zip ((gs.map (·.2)).map sortKeys) :=
      List.zip_of_prod (by simp) (by simp)
    rw [hzip, hzip, hkeys, hvalues]

/-- A value that is neither a list nor an object is the same as itself only. -/
theorem sortKeys_scalar_iff {a b : Json} (harr : ∀ items, a ≠ arr items) (hobj : ∀ entries, a ≠ obj entries) :
    sortKeys a = sortKeys b ↔ Same a b := by
  have hself : sortKeys a = a := by
    cases a with
    | arr items => exact absurd rfl (harr items)
    | obj entries => exact absurd rfl (hobj entries)
    | _ => rfl
  rw [hself]
  constructor
  · rintro rfl
    cases b with
    | arr items => exact absurd (sortKeys_arr items) (harr _)
    | obj entries => exact absurd (sortKeys_obj entries) (hobj _)
    | null => exact .null
    | bool b => exact .bool b
    | int n => exact .int n
    | float x => exact .float x
    | str s => exact .str s
  · intro h
    cases h with
    | arr => exact absurd rfl (harr _)
    | obj => exact absurd rfl (hobj _)
    | _ => rfl

/-- Sorting keys makes two values equal exactly if they are the same but for the order of entries. -/
theorem sortKeys_eq_iff {a b : Json} (ha : a.Distinct) (hb : b.Distinct) : sortKeys a = sortKeys b ↔ Same a b := by
  induction a using parts_induction generalizing b with
  | arr as ih =>
    cases ha with
    | arr has =>
    cases hb with
    | @arr bs hbs =>
      have hitems := forall₂_iff_map_eq (R := Same) fun v hv w hw => (ih v hv (has v hv) (hbs w hw)).symm
      rw [sortKeys_arr, sortKeys_arr, arr.injEq, ← hitems]
      refine ⟨.arr, ?_⟩
      rintro ⟨⟩
      assumption
    | obj =>
      rw [sortKeys_arr, sortKeys_obj]
      exact ⟨nofun, nofun⟩
    | _ =>
      rw [sortKeys_arr]
      exact ⟨nofun, nofun⟩
  | obj es ih =>
    cases ha with
    | obj hes has =>
    cases hb with
    | @obj fs hfs hbs =>
      -- Whatever order the entries are in, those of the one have the values that `ih` is about.
      have hvalues {es' fs' : Entries Json} (hperm : es.Perm es') (hperm' : fs.Perm fs') :
          List.Forall₂ Same (es'.map (·.2)) (fs'.map (·.2)) ↔
            (es'.map (·.2)).map sortKeys = (fs'.map (·.2)).map sortKeys := by
        refine forall₂_iff_map_eq ?_
        simp only [List.forall_mem_map]
        intro e he f hf
        have hmem := hperm.mem_iff.mpr he
        exact (ih e hmem (has e hmem) (hbs f (hperm'.mem_iff.mpr hf))).symm
      rw [sortKeys_obj, sortKeys_obj, obj.injEq]
      constructor
      · intro h
        obtain ⟨hkeys, hsame⟩ := map_sortKeys_iff.mp h
        have hperm := (Entries.perm_sorted hes).symm
        have hperm' := (Entries.perm_sorted hfs).symm
        exact .obj hperm hperm' hkeys ((hvalues hperm hperm').mpr hsame)
      · intro h
        cases h with
        | @obj _ es' _ fs' hperm hperm' hkeys hsame =>
          have hmap := map_sortKeys_iff.mpr ⟨hkeys, (hvalues hperm hperm').mp hsame⟩
          rw [Entries.sorted_of_perm hes hperm, Entries.sorted_of_perm hfs hperm', ← Entries.sorted_map,
            ← Entries.sorted_map, hmap]
    | arr =>
      rw [sortKeys_arr, sortKeys_obj]
      exact ⟨nofun, nofun⟩
    | _ =>
      rw [sortKeys_obj]
      exact ⟨nofun, nofun⟩
  | _ => exact sortKeys_scalar_iff (fun _ => nofun) fun _ => nofun

/-! ### Trees -/

theorem toDocuments_eq (items : List Json) : toDocuments items = items.map toDocument := by
  induction items with
  | nil => rfl
  | cons v rest ih => rw [toDocuments, ih, List.map_cons]

theorem toEntries_eq (entries : Entries Json) :
    toEntries entries = entries.map fun e => (.ok e.1, toDocument e.2) := by
  induction entries with
  | nil => rfl
  | cons e rest ih =>
    obtain ⟨k, v⟩ := e
    rw [toEntries, ih, List.map_cons]

/-- No two values have one tree. -/
theorem toDocument_injective {a b : Json} (h : toDocument a = toDocument b) : a = b := by
  induction a using parts_induction generalizing b with
  | arr as ih =>
    cases b with
    | arr bs =>
      simp only [toDocument, toDocuments_eq, Document.list.injEq, and_true] at h
      have hitems := (forall₂_iff_map_eq (R := Eq) fun v hv w _ => ⟨congrArg toDocument, ih v hv⟩).mpr h
      rw [List.forall₂_eq_eq_eq] at hitems
      rw [hitems]
    | _ => cases h
  | obj es ih =>
    cases b with
    | obj fs =>
      simp only [toDocument, toEntries_eq, Document.object.injEq, and_true] at h
      have hentries := (forall₂_iff_map_eq (R := Eq) fun e he f _ => ⟨fun hef => hef ▸ rfl, fun hef => by
        obtain ⟨hkey, hvalue⟩ := Prod.ext_iff.mp hef
        exact Prod.ext (Except.ok.inj hkey) (ih e he hvalue)⟩).mpr h
      rw [List.forall₂_eq_eq_eq] at hentries
      rw [hentries]
    | _ => cases h
  | _ =>
    cases b <;> cases h
    rfl

/-- A finished tree in whose objects the keys ascend in byte order, as they stand in the text. -/
inductive Document.Ascending : Document → Prop where
  | null : Ascending .null
  | bool (b : Bool) : Ascending (.bool b)
  | number (c : NumberContent) : Ascending (.number c)
  | string (s : StringContent) : Ascending (.string s)
  | list {items : List Document} (h : ∀ d ∈ items, Ascending d) : Ascending (.list items none)
  | object {keys : List String} {entries : List (StringContent × Document)}
      (hkeys : entries.map (·.1) = keys.map .ok)
      (hbytes : keys.Pairwise fun k j => compareBytes (encode k) (encode j) = .lt)
      (h : ∀ e ∈ entries, Ascending e.2) : Ascending (.object entries none)

theorem ascending_toDocument {v : Json} (h : v.Ordered) : (toDocument v).Ascending := by
  induction h with
  | null => exact .null
  | bool b => exact .bool b
  | int n => exact .number _
  | float x => exact .number _
  | str s => exact .string _
  | arr _ ih =>
    rw [toDocument, toDocuments_eq]
    exact .list (List.forall_mem_map.mpr ih)
  | @obj entries hkeys _ ih =>
    rw [toDocument, toEntries_eq]
    have hnames : (entries.map fun e => ((.ok e.1 : StringContent), toDocument e.2)).map (·.1) =
        (entries.map (·.1)).map .ok := by simp
    refine .object hnames ?_ (List.forall_mem_map.mpr ih)
    exact List.pairwise_map.mpr (hkeys.imp Text.Utf8.compareBytes_encode)

/-! ### Texts -/

/-- A text that is canonical for a value: at every depth the keys of its objects ascend in byte order, and
the value is read from it, as far as nesting is allowed. -/
structure IsCanonical (s : String) (v : Json) : Prop where
  ascending : ∃ tree, Json.read s.toList = (tree, false) ∧ tree.Ascending
  parse : v.depth ≤ 127 → ∃ w, Json.parse s = .ok w ∧ Same w v ∧ (v.Ordered → w = v)

/-- The tree of the canonical text of a value. -/
theorem read_canonical {v : Json} (h : v.Writable) :
    Json.read v.canonical.toList = (toDocument (sortKeys v), false) :=
  read_compact (writable_sortKeys h)

theorem parse_canonical {v : Json} (h : v.Writable) (hdepth : v.depth ≤ 127) :
    Json.parse v.canonical = .ok (sortKeys v) :=
  parse_compact ⟨writable_sortKeys h, ordered_sortKeys v⟩ ((depth_sortKeys v).trans hdepth)

theorem isCanonical {v : Json} (h : v.Proper) : IsCanonical v.canonical v := by
  have hordered := ordered_sortKeys v
  refine ⟨⟨_, read_canonical h.writable, ascending_toDocument hordered⟩, fun hdepth => ?_⟩
  refine ⟨_, parse_canonical h.writable hdepth, ?_, sortKeys_of_ordered⟩
  exact (sortKeys_eq_iff hordered.distinct h.distinct).mp (sortKeys_of_ordered hordered)

/-- Values have one canonical text exactly if they are the same but for the order of entries. -/
theorem canonical_eq_iff {a b : Json} (ha : a.Proper) (hb : b.Proper) : a.canonical = b.canonical ↔ Same a b := by
  rw [← sortKeys_eq_iff ha.distinct hb.distinct]
  refine ⟨fun h => toDocument_injective ?_, fun h => congrArg compact h⟩
  have hread : (toDocument (sortKeys a), false) = (toDocument (sortKeys b), false) := by
    rw [← read_canonical ha.writable, ← read_canonical hb.writable, h]
  exact congrArg Prod.fst hread

end Catalogue.Json
