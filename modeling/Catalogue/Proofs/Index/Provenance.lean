import Catalogue.Index.Provenance
import Catalogue.Proofs.Json.Document

/-! Provenance that is recorded as a list of lists. What counts is its leaves, from left to right
(`leaves`): each lists an entry or nothing (`Lists`), and the label is that of the entries, whatever
lists they stand in (`render?_flattens`). The occurrence that is given for the whole holds for each
leaf that has none of its own; a number that is no signed word is none (`render?_unsigned`). -/
namespace Catalogue

open Number (Binary64 int64)

theorem Json.int64?_eq_some {v : Json} {n : Int} : v.int64? = some n ↔ v = .int n ∧ int64.holds n = true := by
  cases v with
  | int m =>
    rw [int64?, Option.ite_none_right_eq_some, Option.some.injEq, int.injEq, and_comm]
    exact and_congr_right fun h => by rw [h]
  | _ => exact iff_of_false (fun h => by cases h) (fun h => by cases h.1)

namespace Provenance

/-! ### Leaves -/

mutual

/-- The parts of a value that are no lists, from left to right. -/
def leaves : Json → List Json
  | .arr items => leavesIn items
  | v => [v]

def leavesIn : List Json → List Json
  | [] => []
  | v :: rest => leaves v ++ leavesIn rest

end

theorem leaves_of_leaf {v : Json} (h : v.arr? = none) : leaves v = [v] := by
  cases v with
  | arr items => cases h
  | _ => rfl

mutual

/-- No leaf is a list. -/
theorem leaf_of_mem_leaves (v : Json) : ∀ l ∈ leaves v, l.arr? = none := by
  match v with
  | .arr items => exact leaf_of_mem_leavesIn items
  | .null | .bool _ | .int _ | .float _ | .str _ | .obj _ => exact List.forall_mem_singleton.mpr rfl

theorem leaf_of_mem_leavesIn (items : List Json) : ∀ l ∈ leavesIn items, l.arr? = none := by
  match items with
  | [] => exact List.forall_mem_nil _
  | v :: rest => exact List.forall_mem_append.mpr ⟨leaf_of_mem_leaves v, leaf_of_mem_leavesIn rest⟩

end

/-- A list of leaves is as flat as it can be. -/
theorem leavesIn_of_leaves {ls : List Json} (h : ∀ l ∈ ls, l.arr? = none) : leavesIn ls = ls := by
  induction ls with
  | nil => rfl
  | cons l ls ih =>
    obtain ⟨hl, hls⟩ := List.forall_mem_cons.mp h
    show leaves l ++ leavesIn ls = l :: ls
    rw [leaves_of_leaf hl, ih hls, List.singleton_append]

/-! ### Labels -/

/-- Two labels with a comma between them, or the one that there is. -/
def joinBoth? (a b : Option String) : Option String := a.merge (fun s t => s ++ ", " ++ t) b

theorem join?_toList (o : Option String) : join? o.toList = o := by
  cases o with
  | none => rfl
  | some s => exact congrArg some String.intercalate_singleton

theorem join?_append (xs ys : List String) : join? (xs ++ ys) = joinBoth? (join? xs) (join? ys) := by
  cases xs with
  | nil => exact Option.merge_none_left.symm
  | cons x xs =>
    cases ys with
    | nil => rw [List.append_nil]; rfl
    | cons y ys =>
      exact congrArg some (String.intercalate_append_of_ne_nil (List.cons_ne_nil x xs) (List.cons_ne_nil y ys))

theorem join?_eq_none {xs : List String} : join? xs = none ↔ xs = [] := by
  cases xs with
  | nil => exact iff_of_true rfl rfl
  | cons x xs => exact iff_of_false (fun h => by cases h) (List.cons_ne_nil x xs)

/-- A label with another before or behind it is longer. -/
theorem ne_join (s t : String) : s ≠ s ++ ", " ++ t ∧ s ≠ t ++ ", " ++ s := by
  have hlonger (u : String) (h : s.length < u.length) : s ≠ u := fun heq => by rw [← heq] at h; omega
  have hcomma : ", ".length = 2 := rfl
  constructor
  · exact hlonger _ (by rw [String.length_append, String.length_append]; omega)
  · exact hlonger _ (by rw [String.length_append, String.length_append]; omega)

theorem joinBoth?_right_inj (a : Option String) {b c : Option String} : joinBoth? a b = joinBoth? a c ↔ b = c := by
  refine ⟨fun h => ?_, fun h => by rw [h]⟩
  cases a with
  | none => rwa [joinBoth?, joinBoth?, Option.merge_none_left, Option.merge_none_left] at h
  | some s =>
    cases b <;> cases c
    · rfl
    · exact absurd (Option.some.inj h) (ne_join s _).1
    · exact absurd (Option.some.inj h).symm (ne_join s _).1
    · exact congrArg some ((String.append_right_inj _).mp (Option.some.inj h))

theorem joinBoth?_left_inj (c : Option String) {a b : Option String} : joinBoth? a c = joinBoth? b c ↔ a = b := by
  refine ⟨fun h => ?_, fun h => by rw [h]⟩
  cases c with
  | none => rwa [joinBoth?, joinBoth?, Option.merge_none_right, Option.merge_none_right] at h
  | some s =>
    cases a <;> cases b
    · rfl
    · exact absurd (Option.some.inj h) (ne_join s _).2
    · exact absurd (Option.some.inj h).symm (ne_join s _).2
    · exact congrArg some ((String.append_left_inj _).mp ((String.append_left_inj _).mp (Option.some.inj h)))

/-- The labels of the leaves of a value. -/
def labels (occurrence : Option Int) (v : Json) : List String := (leaves v).filterMap (render? occurrence)

theorem labels_of_leaf (occurrence : Option Int) {l : Json} (h : l.arr? = none) :
    labels occurrence l = (render? occurrence l).toList := by
  rw [labels, leaves_of_leaf h]
  cases hl : render? occurrence l <;> simp [hl]

theorem renderItems_cons (occurrence : Option Int) (v : Json) (rest : List Json) :
    renderItems occurrence (v :: rest) = (render? occurrence v).toList ++ renderItems occurrence rest := by
  rw [renderItems]
  cases render? occurrence v <;> rfl

theorem renderItems_append (occurrence : Option Int) (vs ws : List Json) :
    renderItems occurrence (vs ++ ws) = renderItems occurrence vs ++ renderItems occurrence ws := by
  induction vs with
  | nil => rfl
  | cons v vs ih => rw [List.cons_append, renderItems_cons, renderItems_cons, ih, List.append_assoc]

-- By recursion on the value and on its items: what the items are joined to is what their leaves are joined to.
mutual

/-- The label of a value is that of its leaves. -/
theorem render?_eq (occurrence : Option Int) (v : Json) : render? occurrence v = join? (labels occurrence v) := by
  match v with
  | .arr items => exact join?_renderItems occurrence items
  | .null | .bool _ | .int _ | .float _ | .str _ | .obj _ => rw [labels_of_leaf occurrence rfl, join?_toList]

/-- An item may be joined before it is joined to the others. -/
theorem join?_renderItems (occurrence : Option Int) (items : List Json) :
    join? (renderItems occurrence items) = join? ((leavesIn items).filterMap (render? occurrence)) := by
  match items with
  | [] => rfl
  | v :: rest =>
    have hleaves : (leavesIn (v :: rest)).filterMap (render? occurrence) =
        labels occurrence v ++ (leavesIn rest).filterMap (render? occurrence) := List.filterMap_append
    rw [renderItems_cons, hleaves, join?_append, join?_append, join?_toList, join?_renderItems occurrence rest,
      render?_eq occurrence v]

end

theorem labels_flat (occurrence : Option Int) (v : Json) :
    labels occurrence (.arr (leaves v)) = labels occurrence v :=
  congrArg (List.filterMap (render? occurrence)) (leavesIn_of_leaves (leaf_of_mem_leaves v))

/-! ### Entries -/

/-- A tag that is listed, and the number that is listed with it. -/
structure Entry where
  tag : String
  number : Option Int
  deriving DecidableEq, Repr

/-- How an entry is written. -/
def Entry.text (e : Entry) : String := label e.tag e.number

/-- Whether a leaf lists an entry. A text that is not blank is a tag, a number is one as it is written,
and an object names one; only an object may have a number of its own, and all else is listed with
the one that is given. -/
inductive Lists (occurrence : Option Int) : Json → Entry → Prop where
  | text {s : String} (hs : Text.isBlank s = false) : Lists occurrence (.str s) ⟨Text.trim s, occurrence⟩
  | int (n : Int) : Lists occurrence (.int n) ⟨(Json.int n).compact, occurrence⟩
  | float (x : Binary64) : Lists occurrence (.float x) ⟨(Json.float x).compact, occurrence⟩
  | numbered {entries : List (String × Json)} {tag : String} {n : Int} (htag : tagOf? entries = some tag)
      (hnumber : Entries.get? "occurrence" entries = some (.int n)) (hword : int64.holds n = true) :
      Lists occurrence (.obj entries) ⟨tag, some n⟩
  | unnumbered {entries : List (String × Json)} {tag : String} (htag : tagOf? entries = some tag)
      (hnumber : ∀ n, Entries.get? "occurrence" entries = some (.int n) → int64.holds n = false) :
      Lists occurrence (.obj entries) ⟨tag, occurrence⟩

/-- The number that an object has of its own. -/
def number? (entries : List (String × Json)) : Option Int := (Entries.get? "occurrence" entries).bind Json.int64?

theorem number?_eq_some {entries : List (String × Json)} {n : Int} :
    number? entries = some n ↔ Entries.get? "occurrence" entries = some (.int n) ∧ int64.holds n = true := by
  simp only [number?, Option.bind_eq_some_iff, Json.int64?_eq_some]
  exact ⟨fun ⟨_, hget, hv, hn⟩ => ⟨hv ▸ hget, hn⟩, fun ⟨hget, hn⟩ => ⟨_, hget, rfl, hn⟩⟩

theorem number?_eq_none {entries : List (String × Json)} :
    number? entries = none ↔
      ∀ n, Entries.get? "occurrence" entries = some (.int n) → int64.holds n = false := by
  rw [Option.eq_none_iff_forall_ne_some]
  exact forall_congr' fun n => by rw [Ne, number?_eq_some, not_and, Bool.not_eq_true]

theorem render?_obj (occurrence : Option Int) {entries : List (String × Json)} {tag : String}
    (htag : tagOf? entries = some tag) :
    render? occurrence (.obj entries) = some (label tag ((number? entries).or occurrence)) := by
  rw [render?, htag]
  rfl

/-- An object lists its tag, with its own number or else with the one that is given. -/
theorem lists_obj (occurrence : Option Int) {entries : List (String × Json)} {tag : String}
    (htag : tagOf? entries = some tag) :
    Lists occurrence (.obj entries) ⟨tag, (number? entries).or occurrence⟩ := by
  cases hn : number? entries with
  | some n =>
    obtain ⟨hget, hword⟩ := number?_eq_some.mp hn
    exact .numbered htag hget hword
  | none => exact .unnumbered htag (number?_eq_none.mp hn)

theorem Lists.render?_eq {occurrence : Option Int} {l : Json} {e : Entry} (h : Lists occurrence l e) :
    render? occurrence l = some e.text := by
  cases h with
  | text hs => rw [render?, hs]; rfl
  | int n => rfl
  | float x => rfl
  | numbered htag hget hword =>
    rw [render?_obj occurrence htag, number?_eq_some.mpr ⟨hget, hword⟩]
    rfl
  | unnumbered htag hget =>
    rw [render?_obj occurrence htag, number?_eq_none.mpr hget]
    rfl

theorem exists_lists {occurrence : Option Int} {l : Json} {s : String} (hleaf : l.arr? = none)
    (h : render? occurrence l = some s) : ∃ e, Lists occurrence l e := by
  cases l with
  | null | bool b => cases h
  | int n => exact ⟨_, .int n⟩
  | float x => exact ⟨_, .float x⟩
  | str t =>
    cases hblank : Text.isBlank t with
    | true => rw [render?, hblank] at h; cases h
    | false => exact ⟨_, .text hblank⟩
  | arr items => cases hleaf
  | obj entries =>
    rw [render?] at h
    obtain ⟨tag, htag, -⟩ := Option.map_eq_some_iff.mp h
    exact ⟨_, lists_obj occurrence htag⟩

/-- A leaf's label is how the entry that it lists is written. -/
theorem render?_leaf {occurrence : Option Int} {l : Json} (hleaf : l.arr? = none) {s : String} :
    render? occurrence l = some s ↔ ∃ e, Lists occurrence l e ∧ e.text = s := by
  constructor
  · intro h
    obtain ⟨e, he⟩ := exists_lists hleaf h
    exact ⟨e, he, Option.some.inj (he.render?_eq.symm.trans h)⟩
  · intro ⟨e, he, htext⟩
    rw [he.render?_eq, htext]

theorem render?_leaf_eq_none {occurrence : Option Int} {l : Json} (hleaf : l.arr? = none) :
    render? occurrence l = none ↔ ∀ e, ¬Lists occurrence l e := by
  constructor
  · intro h e he
    rw [he.render?_eq] at h
    cases h
  · intro h
    refine Option.eq_none_iff_forall_ne_some.mpr fun s hs => ?_
    obtain ⟨e, he⟩ := exists_lists hleaf hs
    exact h e he

/-- The entries that leaves list, in their order; a leaf that lists none is passed over. -/
inductive Listing (occurrence : Option Int) : List Json → List Entry → Prop where
  | nil : Listing occurrence [] []
  | listed {l : Json} {ls : List Json} {e : Entry} {es : List Entry} (h : Lists occurrence l e)
      (hrest : Listing occurrence ls es) : Listing occurrence (l :: ls) (e :: es)
  | passed {l : Json} {ls : List Json} {es : List Entry} (h : ∀ e, ¬Lists occurrence l e)
      (hrest : Listing occurrence ls es) : Listing occurrence (l :: ls) es

/-- The labels of leaves are how the entries that they list are written. -/
theorem exists_listing (occurrence : Option Int) {ls : List Json} (hleaf : ∀ l ∈ ls, l.arr? = none) :
    ∃ es, Listing occurrence ls es ∧ ls.filterMap (render? occurrence) = es.map Entry.text := by
  induction ls with
  | nil => exact ⟨[], .nil, rfl⟩
  | cons l ls ih =>
    obtain ⟨hl, hls⟩ := List.forall_mem_cons.mp hleaf
    obtain ⟨es, hes, htexts⟩ := ih hls
    cases hlabel : render? occurrence l with
    | none =>
      refine ⟨es, .passed ((render?_leaf_eq_none hl).mp hlabel) hes, ?_⟩
      rw [List.filterMap_cons_none hlabel, htexts]
    | some s =>
      obtain ⟨e, he, rfl⟩ := (render?_leaf hl).mp hlabel
      refine ⟨e :: es, .listed he hes, ?_⟩
      rw [List.filterMap_cons_some hlabel, htexts, List.map_cons]

/-- The label of a value is that of its leaves, in their order and with commas between, in whatever lists they stand;
there is none exactly if no leaf has one. A leaf's label is the entry that it lists. -/
theorem render?_flattens (occurrence : Option Int) (v : Json) :
    render? occurrence v = join? ((leaves v).filterMap (render? occurrence)) ∧
    render? occurrence v = render? occurrence (.arr (leaves v)) ∧
    (render? occurrence v = none ↔ ∀ l ∈ leaves v, render? occurrence l = none) ∧
    ∀ l ∈ leaves v, l.arr? = none ∧
      ∀ s, render? occurrence l = some s ↔ ∃ e, Lists occurrence l e ∧ e.text = s := by
  have hjoin := render?_eq occurrence v
  refine ⟨hjoin, ?flat, ?none, ?leaf⟩
  case flat => rw [hjoin, render?_eq occurrence (.arr (leaves v)), labels_flat]
  case none => rw [hjoin, join?_eq_none, labels, List.filterMap_eq_nil_iff]
  case leaf =>
    intro l hl
    have hleaf := leaf_of_mem_leaves v l hl
    exact ⟨hleaf, fun s => render?_leaf hleaf⟩

/-- A bare tag, an object and a number in lists of different depth, among texts and lists that list nothing. -/
theorem render?_flattens_mixed :
    let own : Json := .obj [("occurrence", .int 1), ("tag", .int 700)]
    let other : Json := .obj [("occurrence", .str "1"), ("source_tag", .str "710")]
    let v : Json := .arr [.arr [.str " 245 ", .null], own, .arr [.arr [], .arr [other]], .str " ", .int 5]
    leaves v = [.str " 245 ", .null, own, other, .str " ", .int 5] ∧
      render? (some 2) v = some "245[2], 700[1], 710[2], 5[2]" ∧
      Lists (some 2) own ⟨"700", some 1⟩ ∧ Lists (some 2) other ⟨"710", some 2⟩ := by
  intro own other v
  obtain ⟨hjoin, -⟩ := render?_flattens (some 2) v
  refine ⟨rfl, hjoin.trans (by decide +kernel), ?_, ?_⟩
  · exact .numbered (by decide +kernel) rfl rfl
  · exact .unnumbered (by decide +kernel) fun n h => by cases h

/-- The number of an object is passed over if it is no signed word, whether another is given or not. -/
theorem render?_unsigned :
    let n : Int := 9223372036854775808
    let entries : List (String × Json) := [("occurrence", .int n), ("tag", .str "700")]
    (Json.obj entries).WellFormed ∧ tagOf? entries = some "700" ∧
      Entries.get? "occurrence" entries = some (.int n) ∧
      label "700" (some n) = "700[9223372036854775808]" ∧
      render? none (.obj entries) = some "700" ∧ render? (some 2) (.obj entries) = some "700[2]" := by
  intro n entries
  have hwritable : (Json.obj entries).Writable :=
    .obj (List.forall_mem_cons.mpr ⟨.int ⟨by decide, by decide⟩, List.forall_mem_singleton.mpr (.str _)⟩)
  have hordered : (Json.obj entries).Ordered :=
    .obj (List.pairwise_pair.mpr (by decide))
      (List.forall_mem_cons.mpr ⟨.int _, List.forall_mem_singleton.mpr (.str _)⟩)
  exact ⟨⟨hwritable, hordered⟩, by decide +kernel, rfl, by decide +kernel, by decide +kernel, by decide +kernel⟩

end Provenance
end Catalogue
