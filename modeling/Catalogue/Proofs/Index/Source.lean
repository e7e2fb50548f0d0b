import Catalogue.Index.Evidence
import Catalogue.Proofs.Filter.Grammar
import Catalogue.Proofs.Index.Provenance

/-! The source of evidence, which is a column and the tags that its value comes from. A tag that is recorded bare is
trimmed and passed over if nothing is left, but the tag of an object is listed as it is. So a source
lists a blank tag exactly if an object has one, and an object is listed as its bare tag is, on its own and
in lists, exactly if the tag is trimmed and not empty (`source_tagged_iff`, `source_blank`). -/
namespace Catalogue

open Number (Binary64)

/-! ### Blank tags -/

theorem Filter.Trimmed.isBlank {s : String} (h : Filter.Trimmed s) : Text.isBlank s = false :=
  Filter.trimmed_trim_iff.mp (h.1.symm ▸ h)

theorem Text.isBlank_of_mem {s : String} {c : Char} (hc : c ∈ s.toList) (h : isSpace c = false) :
    isBlank s = false := by
  rw [isBlank, List.all_eq_false]
  exact ⟨c, hc, Bool.eq_false_iff.mp h⟩

/-- A floating-point number is written with a point or with an exponent. -/
theorem Number.Binary64.point_or_exponent (x : Binary64) : '.' ∈ x.interchangeText ∨ 'e' ∈ x.interchangeText := by
  rw [interchangeText_eq, Numeral.unsignedText]
  cases x.interchange_not_integer with
  | inl hfraction =>
    obtain ⟨ds, hds⟩ := Option.ne_none_iff_exists'.mp hfraction
    exact .inl (by simp [Numeral.fractionText, hds])
  | inr hexponent =>
    obtain ⟨e, he⟩ := Option.ne_none_iff_exists'.mp hexponent
    exact .inr (by simp [Numeral.exponentText, he])

namespace Provenance

theorem isBlank_int (n : Int) : Text.isBlank (Json.int n).compact = false := (isTrimmed_intText n).isBlank

theorem isBlank_float (x : Binary64) : Text.isBlank (Json.float x).compact = false := by
  have hmem {c : Char} (hc : c ∈ x.interchangeText) : c ∈ (Json.float x).compact.toList := by
    rwa [Json.compact, String.toList_ofList]
  cases x.point_or_exponent with
  | inl hpoint => exact Text.isBlank_of_mem (hmem hpoint) (by decide)
  | inr hexponent => exact Text.isBlank_of_mem (hmem hexponent) (by decide)

/-- The tag that a leaf names, if it is an object. -/
def objectTag? : Json → Option String
  | .obj entries => tagOf? entries
  | _ => none

/-- The tag of an entry is not blank, if it is not the tag of an object. -/
theorem Lists.isBlank_iff {occurrence : Option Int} {l : Json} {e : Entry} (h : Lists occurrence l e) :
    Text.isBlank e.tag = false ↔ ∀ tag ∈ objectTag? l, Text.isBlank tag = false := by
  have hobject {entries : List (String × Json)} {tag : String} (htag : tagOf? entries = some tag) :
      Text.isBlank tag = false ↔ ∀ t ∈ objectTag? (.obj entries), Text.isBlank t = false := by
    rw [objectTag?, htag]
    simp only [Option.mem_some_iff, forall_eq']
  cases h with
  | text hs => exact iff_of_true (Filter.trimmed_trim_iff.mpr hs).isBlank fun _ htag => by cases htag
  | int n => exact iff_of_true (isBlank_int n) fun _ htag => by cases htag
  | float x => exact iff_of_true (isBlank_float x) fun _ htag => by cases htag
  | numbered htag _ _ => exact hobject htag
  | unnumbered htag _ => exact hobject htag

/-- An object that names a tag is not passed over. -/
theorem objectTag?_of_passed {occurrence : Option Int} {l : Json} (h : ∀ e, ¬Lists occurrence l e) :
    objectTag? l = none := by
  cases l with
  | obj entries => exact Option.eq_none_iff_forall_ne_some.mpr fun tag htag => h _ (lists_obj occurrence htag)
  | _ => rfl

/-- No entry has a blank tag exactly if no object has one. -/
theorem Listing.tagged_iff {occurrence : Option Int} {ls : List Json} {es : List Entry}
    (h : Listing occurrence ls es) :
    (∀ e ∈ es, Text.isBlank e.tag = false) ↔ ∀ l ∈ ls, ∀ tag ∈ objectTag? l, Text.isBlank tag = false := by
  induction h with
  | nil => exact iff_of_true (List.forall_mem_nil _) (List.forall_mem_nil _)
  | listed h _ ih => rw [List.forall_mem_cons, List.forall_mem_cons, h.isBlank_iff, ih]
  | @passed l ls es h _ ih =>
    have hnone : ∀ tag ∈ objectTag? l, Text.isBlank tag = false := by
      rw [objectTag?_of_passed h]
      exact fun _ htag => by cases htag
    rw [List.forall_mem_cons, ih, and_iff_right hnone]

/-! ### An object in place of its tag -/

/-- A value among the items of a list, this list among those of another, and so on; the outermost items are
the first. -/
def within : List (List Json × List Json) → Json → Json
  | [], v => v
  | (before, after) :: inner, v => .arr (before ++ within inner v :: after)

/-- The label of a list, around that of an item. -/
theorem render?_item (occurrence : Option Int) (before after : List Json) (v : Json) :
    render? occurrence (.arr (before ++ v :: after)) =
      joinBoth? (join? (renderItems occurrence before))
        (joinBoth? (render? occurrence v) (join? (renderItems occurrence after))) := by
  show join? (renderItems occurrence (before ++ v :: after)) = _
  rw [renderItems_append, renderItems_cons, join?_append, join?_append, join?_toList]

/-- With either of two values in one place there is the same label exactly if the two have the same. -/
theorem render?_within_iff {occurrence : Option Int} (places : List (List Json × List Json)) {v w : Json} :
    render? occurrence (within places v) = render? occurrence (within places w) ↔
      render? occurrence v = render? occurrence w := by
  induction places with
  | nil => exact Iff.rfl
  | cons place inner ih =>
    rw [within, within, render?_item, render?_item, joinBoth?_right_inj, joinBoth?_left_inj, ih]

theorem label_left_inj {number : Option Int} {s t : String} : label s number = label t number ↔ s = t := by
  cases number with
  | none => rfl
  | some n => simp only [label, String.append_left_inj]

/-- An object without a number has the label of its tag exactly if the tag is trimmed and not empty. -/
theorem render?_obj_iff {occurrence : Option Int} {entries : List (String × Json)} {tag : String}
    (htag : Entries.get? "tag" entries = some (.str tag)) (hnumber : Entries.get? "occurrence" entries = none) :
    render? occurrence (.obj entries) = render? occurrence (.str tag) ↔ Filter.Trimmed tag := by
  have hobj : render? occurrence (.obj entries) = some (label tag occurrence) := by
    have htagOf : tagOf? entries = some tag := by rw [tagOf?, htag]; rfl
    rw [render?_obj occurrence htagOf, number?, hnumber]
    rfl
  rw [hobj, render?]
  cases hblank : Text.isBlank tag with
  | true => exact iff_of_false (fun h => by cases h) fun h => Bool.eq_false_iff.mp h.isBlank hblank
  | false =>
    have hne : tag ≠ "" := fun h => by rw [h] at hblank; cases hblank
    rw [if_neg Bool.false_ne_true, Option.some_inj, label_left_inj, Filter.Trimmed, and_iff_left hne, eq_comm]

end Provenance

namespace Evidence

open Provenance Index

/-! ### Sources -/

/-- The column in which a table records where its values come from. -/
def provenanceColumn : Table → String
  | .imprints => "source_tags"
  | .languages | .titles | .subjects => "source"
  | .agents => "provenance_json"

/-- What a result has recorded there. -/
def recordedProvenance (t : Table) (row : ResultRow) : Json := recorded (row.value t (provenanceColumn t))

/-- The occurrence of what has none of its own: imprints have one for all. -/
def occurrence? (t : Table) (row : ResultRow) : Option Int :=
  match t with
  | .imprints => (row.value t "occurrence").int64?
  | _ => none

theorem provenance?_eq (t : Table) (row : ResultRow) :
    provenance? t row = render? (occurrence? t row) (recordedProvenance t row) := by
  cases t <;> rfl

theorem sourceText_eq (t : Table) (column : String) (row : ResultRow) :
    sourceText t column row = t.name ++ "." ++ column ++
      ((provenance? t row).elim "" fun p => " (marc:" ++ p ++ ")") := by
  unfold sourceText
  cases provenance? t row with
  | none => exact (String.append_empty ..).symm
  | some p => simp only [Option.elim, String.append_assoc]

/-- What follows the column in a source that lists entries. -/
def listText (es : List Entry) : String :=
  if es = [] then "" else " (marc:" ++ ", ".intercalate (es.map Entry.text) ++ ")"

/-- A source lists the entries of what is recorded, and nothing if there are none. It lists no blank tag exactly if
no object has one; and an object without a number, wherever it stands, is listed as its bare tag is exactly
if the tag is trimmed and not empty. -/
theorem source_tagged_iff (f : Filter) (row : ResultRow) :
    let w := witnessIn f row
    let ls := leaves (recordedProvenance w.table row)
    (∃ es, Listing (occurrence? w.table row) ls es ∧
      (of f row).source = w.table.name ++ "." ++ w.column ++ listText es ∧
      ((∀ e ∈ es, Text.isBlank e.tag = false) ↔ ∀ l ∈ ls, ∀ tag ∈ objectTag? l, Text.isBlank tag = false)) ∧
    ∀ occurrence places entries tag, Entries.get? "tag" entries = some (.str tag) →
      Entries.get? "occurrence" entries = none →
      (render? occurrence (within places (.obj entries)) = render? occurrence (within places (.str tag)) ↔
        Filter.Trimmed tag) := by
  intro w ls
  constructor
  · have hleaf := leaf_of_mem_leaves (recordedProvenance w.table row)
    obtain ⟨es, hes, htexts⟩ := exists_listing (occurrence? w.table row) hleaf
    refine ⟨es, hes, ?_, hes.tagged_iff⟩
    show sourceText w.table w.column row = _
    rw [sourceText_eq, provenance?_eq, render?_eq, labels, htexts]
    cases es with
    | nil => rfl
    | cons e es => rfl
  · intro occurrence places entries tag htag hnumber
    rw [render?_within_iff, render?_obj_iff htag hnumber]

/-- A filter on agents. -/
def bombergFilter : Filter := ⟨.agentNorm, .equals, .text "bomberg", false, none, none⟩

/-- Bare tags and objects in a list of lists, as text. -/
theorem source_tagged_iff_agent :
    let row : ResultRow := [("agents_provenance_json",
      .str "[\" 700 \", [\x7b\"tag\": \"710\", \"occurrence\": 1\x7d, \" \"], \x7b\"tag\": \"711\"\x7d]")]
    (of bombergFilter row).source = "agents.agent_norm (marc:700, 710[1], 711)" ∧
      (∃ es, Listing none (leaves (recordedProvenance .agents row)) es ∧
        (of bombergFilter row).source = "agents.agent_norm" ++ listText es ∧
        ∀ e ∈ es, Text.isBlank e.tag = false) ∧
      render? (some 2) (.arr [.arr [.null, .obj [("tag", .str "711")]], .str "700"]) =
        render? (some 2) (.arr [.arr [.null, .str "711"], .str "700"]) := by
  intro row
  obtain ⟨⟨es, hes, hsource, htagged⟩, hsame⟩ := source_tagged_iff bombergFilter row
  refine ⟨by decide +kernel, ⟨es, hes, hsource, htagged.mpr (by decide +kernel)⟩, ?_⟩
  exact (hsame (some 2) [([], [.str "700"]), ([.null], [])] _ "711" rfl rfl).mpr ⟨by decide +kernel, by decide⟩

/-- The blank tag of an object is listed, where a bare one leaves no trace; and an object's tag is not trimmed. -/
theorem source_blank :
    let object : ResultRow := [("agents_provenance_json", .str "[\x7b\"tag\": \" \"\x7d]")]
    let bare : ResultRow := [("agents_provenance_json", .str "[\" \"]")]
    (of bombergFilter object).source = "agents.agent_norm (marc: )" ∧
      (of bombergFilter bare).source = "agents.agent_norm" ∧
      render? none (.obj [("tag", .str " 245 ")]) = some " 245 " ∧ render? none (.str " 245 ") = some "245" := by
  decide +kernel

end Evidence
end Catalogue
