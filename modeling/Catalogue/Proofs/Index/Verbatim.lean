import Catalogue.Proofs.Index.Evidence
import Catalogue.Proofs.Index.Single

/-! Asking for what a record says. The texts of countries, languages, titles, subjects and
agents are compared in lower case: on the side of the index the letters A to Z alone, on
the side of the filter all letters. The two agree on a text, and asking for it finds every
record that has it, exactly if the text has no other letter that is not in lower case
(`foundVerbatim_iff`); a title that begins with an accented capital is not found
(`not_foundVerbatim_accented`). -/
namespace Catalogue

open Text

/-- The letters A to Z alone put a trimmed text in lower case if all others are in lower case already. -/
theorem Text.asciiLowercase_eq_foldedCode {v : String} (hv : trim v = v) :
    asciiLowercase v = foldedCode v ↔ ∀ c ∈ v.toList, Lower c.toLower := by
  have hlist : (asciiLowercase v).toList = v.toList.map Char.toLower := by
    rw [asciiLowercase, String.toList_ofList]
  constructor
  · intro heq c hc
    have hlower := lowerText_foldedCode v
    rw [← heq, hlist] at hlower
    exact hlower _ (List.mem_map_of_mem hc)
  · intro h
    -- So there is no capital sigma, the one letter whose lower case depends on those around it.
    have hlower : LowerText (v.toList.map Char.toLower) := List.forall_mem_map.mpr h
    have hafter := lowercaseAfter_of_map hlower rfl [] []
    rw [List.append_nil, lowercaseAfter, List.append_nil] at hafter
    rw [foldedCode, hv, lowercase, hafter]
    rfl

/-- Whether a filter asks for a text, by itself or in a set that is not too large. -/
def Filter.AsksFor (t : Index.Target) (f : Filter) (v : String) : Prop :=
  f.negate = false ∧ (f.op = .equals ∧ f.value = .text v ∨
    f.op = .oneOf ∧ ∃ vs, f.value = .set vs ∧ v ∈ vs ∧ vs.length ≤ t.mostMembers false)

namespace Index

/-- Whether a record has a text, as it stands, where the texts of a target are looked for. -/
def Says (ix : Index) (t : Target) (r : Record) (v : String) : Prop :=
  ∃ row ∈ rowsOf ix r t.table, ∃ column ∈ t.columns, row.cell column = .text v

/-- Whether asking for a text finds every record that says it: on every index, by every plan without a
limit whose only filter asks for it, and whatever hook there is. -/
def FoundVerbatim (field : Field) (t : Target) (v : String) : Prop :=
  ∀ ix : Index, ix.lost = [] → KeyedRecords ix → ∀ r ∈ ix.records, ∀ key, r.key = .text key → Says ix t r v →
    ∀ f : Filter, f.field = field → f.AsksFor t v →
      ∀ p : Plan, p.filters = [f] → Plan.positive p.limit = none →
        ∀ {σ : Type} (hook : Option (RetryHook σ)) (hintLimit : Nat) (st : σ),
          ∃ o, execute ix hook hintLimit p st = (.ok o, st) ∧ key ∈ o.recordIds

variable {i : Nat} {f : Filter} {t : Target} {b : BoundCondition} {bound : String → Cell} {row : Row} {v : String}

/-- A row passes a comparison if one of its columns equals one of the parameters. -/
theorem equals_truth {columns : List ColumnText} {parameters : List String} :
    (Test.equals columns parameters).truth bound row = some true ↔
      ∃ p ∈ parameters, ∃ c ∈ columns, Cell.equal (c.cell row) (bound p) = some true := by
  simp [Test.truth, any_eq_true]

theorem fits_of_asksFor (h : f.AsksFor t v) : f.Fits t := by
  have hop : f.op ≠ .contains := by
    rintro hop
    rcases h with ⟨-, ⟨hop', -⟩ | ⟨hop', -⟩⟩ <;> cases hop.symm.trans hop'
  refine ⟨fun values hvalues => ?_, fun h => absurd h hop⟩
  obtain ⟨hnegate, ⟨-, hvalue⟩ | ⟨-, vs, hvalue, -, hlength⟩⟩ := h
  · cases hvalues.symm.trans hvalue
  · cases hvalues.symm.trans hvalue
    rwa [hnegate]

/-- The condition of a filter that asks for a text compares the columns with the text's code. -/
theorem condition_of_asksFor (ht : f.field.target? = some t) (h : f.AsksFor t v) :
    ∃ b, condition? i f = some b ∧ b.condition.negate = false ∧
      ∃ parameters, b.condition.test = .equals t.columnTexts parameters ∧
        ∃ p ∈ parameters, (p, Parameter.text (t.normalization.apply v)) ∈ b.parameters := by
  obtain ⟨hnegate, ⟨hop, hvalue⟩ | ⟨hop, vs, hvalue, hv, -⟩⟩ := h
  · exact ⟨_, condition?_eq_some.mpr (.equals ht hop hvalue), hnegate, _, rfl, _, List.mem_singleton_self _,
      List.mem_singleton_self _⟩
  · refine ⟨_, condition?_eq_some.mpr (.oneOf ht hop hvalue), hnegate, _, rfl, ?_⟩
    obtain ⟨k, hk⟩ := List.mem_iff_getElem?.mp hv
    have hmem : (v, k) ∈ vs.zipIdx := List.mem_zipIdx_iff_getElem?.mpr hk
    have hparameter := List.mem_map_of_mem
      (f := fun m => (memberName i m.2, Parameter.text (t.normalization.apply m.1))) hmem
    exact ⟨_, List.mem_map_of_mem hparameter, hparameter⟩

/-- If both sides put a text in lower case alike, every record that says it is found. -/
theorem foundVerbatim_of_same {field : Field} (ht : field.target? = some t) (hcode : t.normalization = .foldedCode)
    (hsame : asciiLowercase v = foldedCode v) : FoundVerbatim field t v := by
  intro ix hix hkeyed r hr key hkey ⟨row, hrow, column, hcolumn, hcell⟩ f hfield hasks p hp hlimit σ hook hintLimit st
  obtain ⟨b, hb, hnegate, parameters, htest, name, hname, hparameter⟩ := condition_of_asksFor (i := 0) (hfield ▸ ht) hasks
  obtain ⟨o, ho, -, bound, hbound, hfound⟩ :=
    plainResult_single hp hlimit (hfield ▸ ht) hb (fits_of_asksFor hasks) hix hkeyed
  have hvalue : bound name = .text (foldedCode v) := by
    rw [hbound _ hparameter, hcode]
    rfl
  have htruth : b.condition.truth bound row = some true := by
    rw [Condition.truth, hnegate, if_neg Bool.false_ne_true, htest, equals_truth]
    refine ⟨name, hname, _, List.mem_map_of_mem hcolumn, ?_⟩
    rw [cell_columnText (s := some v) hcell, hvalue, equal_columnText]
    simp [Target.compared, hcode, hsame]
  have hkey : key ∈ o.recordIds := (hfound key).mpr ⟨r, hr, hkey, row, hrow, htruth⟩
  have hsettled : calledWith? ix hintLimit p = none :=
    calledWith?_eq_none (.inr ⟨o, ho, List.ne_nil_of_mem hkey⟩)
  exact ⟨o, by rw [execute_settled hsettled, ho], hkey⟩

/-! ### A record that says nothing else -/

/-- The plan that asks for a text. -/
def asking (field : Field) (v : String) : Plan :=
  (Plan.ofText "").withFilters [⟨field, .equals, .text v, false, none, none⟩]

theorem keyed_single (t : Table) (column s : String) : KeyedRecords (single t column s) := by
  cases t <;> exact ⟨by simp [single, withRows], by simp [single, withRows]⟩

theorem rows_single (t : Table) (column s : String) :
    (single t column s).rows t = [⟨1, [("record_id", .int 1), (column, .text s)]⟩] := by
  cases t <;> rfl

theorem columns_target {field : Field} (ht : field.target? = some t) :
    t.columns ≠ [] ∧ ∀ c ∈ t.columns, c ≠ "id" ∧ c ≠ "record_id" := by
  cases field <;> cases ht <;> decide

theorem text?_single {field : Field} (ht : field.target? = some t) {column c v : String} (hc : c ∈ t.columns) :
    (⟨1, [("record_id", .int 1), (column, .text v)]⟩ : Row).cell c =
      .ofText? (if column = c then some v else none) := by
  obtain ⟨hid, hrecord⟩ := (columns_target ht).2 c hc
  simp only [Row.cell, if_neg hid, Entries.get?_cons, if_neg hrecord.symm, Entries.get?_nil]
  split <;> rfl

/-- If not, a record that says it and nothing else is not found. -/
theorem same_of_foundVerbatim {field : Field} (ht : field.target? = some t) (hcode : t.normalization = .foldedCode)
    (h : FoundVerbatim field t v) : asciiLowercase v = foldedCode v := by
  obtain ⟨column, hcolumn⟩ := List.exists_mem_of_ne_nil _ (columns_target ht).1
  have hlost : (single t.table column v).lost = [] := by cases t.table <;> rfl
  have hkeyed := keyed_single t.table column v
  have hrecord : (⟨1, .text "r"⟩ : Record) ∈ (single t.table column v).records := by
    cases t.table <;> exact List.mem_singleton_self _
  have hsays : Says (single t.table column v) t ⟨1, .text "r"⟩ v := by
    refine ⟨_, mem_rowsOf.mpr ⟨by rw [rows_single]; exact List.mem_singleton_self _, rfl⟩, column, hcolumn, ?_⟩
    rw [text?_single ht hcolumn, if_pos rfl]
    rfl
  have hasks : Filter.AsksFor t ⟨field, .equals, .text v, false, none, none⟩ v := ⟨rfl, .inl ⟨rfl, rfl⟩⟩
  obtain ⟨o, ho, hkey⟩ := h _ hlost hkeyed _ hrecord "r" rfl hsays _ rfl hasks (asking field v) rfl rfl
    (none : Option (RetryHook Unit)) 1 ()
  obtain ⟨o', ho', -, bound, hbound, hfound⟩ :=
    plainResult_single (p := asking field v) rfl rfl ht (condition?_eq_some.mpr (.equals ht rfl rfl)) (fits_of_asksFor hasks) hlost hkeyed
  rw [execute_none, ho'] at ho
  cases ho
  obtain ⟨r, -, -, row, hrow, htruth⟩ := (hfound "r").mp hkey
  rw [mem_rowsOf, rows_single, List.mem_singleton] at hrow
  rw [hrow.1, Condition.truth, if_neg Bool.false_ne_true, equals_truth] at htruth
  simp only [List.mem_singleton, forall_eq] at hbound
  obtain ⟨name, hname, _, hcompared, hequal⟩ := htruth
  obtain ⟨c, hc, rfl⟩ := List.mem_map.mp hcompared
  rw [List.mem_singleton.mp hname, hbound, cell_columnText (text?_single ht hc), Parameter.cell,
    equal_columnText] at hequal
  split at hequal
  · simpa [Target.compared, hcode, Normalization.apply] using hequal
  · cases hequal

/-- For countries, languages, titles, subjects, agents, their roles and their types: asking for what a record
says finds it exactly if every letter of the text but A to Z is in lower case. -/
theorem foundVerbatim_iff {field : Field} (ht : field.target? = some t) (hcode : t.normalization = .foldedCode)
    (hv : Filter.Trimmed v) : FoundVerbatim field t v ↔ ∀ c ∈ v.toList, Lower c.toLower := by
  rw [← asciiLowercase_eq_foldedCode hv.1]
  exact ⟨same_of_foundVerbatim ht hcode, foundVerbatim_of_same ht hcode⟩

/-- A title in letters A to Z is found. -/
theorem foundVerbatim_latin : FoundVerbatim .title ⟨.titles, ["value"], .foldedCode⟩ "Ars Magna" := by
  have hlower : ("Ars Magna".toList.all fun c => lower c == [c.toLower]) = true := by decide +kernel
  refine (foundVerbatim_iff rfl rfl ⟨by decide, by decide⟩).mpr fun c hc => lower_of_mem_lower (c := c) ?_
  rw [eq_of_beq (List.all_eq_true.mp hlower c hc)]
  exact List.mem_singleton_self _

/-- A title that begins with an accented capital is not. -/
theorem not_foundVerbatim_accented : ¬FoundVerbatim .title ⟨.titles, ["value"], .foldedCode⟩ "École" ∧
    shown? (single .titles "value" "École") (asking .title "École") = some [] :=
  ⟨fun h => absurd (same_of_foundVerbatim rfl rfl h) (by decide +kernel), by decide +kernel⟩

end Index
end Catalogue
