import Catalogue.Proofs.Index.Evidence
import Catalogue.Proofs.Text.Words

/-! Searches for the words of a text. A word between quotes is read back as the word, whatever quotes and operators it
has (`stringsFrom_quoteWord`), so a search reads back as the words of its text and as nothing else
(`strings?_quoteWords`). But for one character: reading stops at the zero character, and a string that has it is not
ended. A filter that looks a text up asks for a word at least, and can be tested just if its value does without that
character (`looksUp_of_valid`). -/
namespace Catalogue.Index

open Text

namespace FullText

/-! ### Reading words back -/

/-- A word with its own quotes doubled. -/
def doubled (word : List Char) : List Char := word.flatMap fun c => if c = '"' then ['"', '"'] else [c]

/-- Inside a string doubled quotes are read as quotes, and all else as it is, up to a zero character. -/
theorem stringsFrom_doubled (word before rest : List Char) :
    stringsFrom (.inside before) (doubled word ++ rest) =
      if '\x00' ∈ word then none else stringsFrom (.inside (word.reverse ++ before)) rest := by
  induction word generalizing before with
  | nil => rfl
  | cons c word ih =>
    by_cases hquote : c = '"'
    · subst hquote
      have hread : stringsFrom (.inside before) (doubled ('"' :: word) ++ rest) =
          stringsFrom (.inside ('"' :: before)) (doubled word ++ rest) := by
        simp [doubled, stringsFrom]
      rw [hread, ih]
      simp
    · have hself : doubled (c :: word) = c :: doubled word := by simp [doubled, hquote]
      rw [hself, List.cons_append, stringsFrom, if_neg hquote]
      by_cases hzero : c = '\x00'
      · simp [hzero]
      · rw [if_neg hzero, ih]
        simp [Ne.symm hzero]

/-- A quoted word is read as the word, and what follows a space after it is read on its own. -/
theorem stringsFrom_quoteWord (word rest : List Char) :
    stringsFrom .between (quoteWord word) = (if '\x00' ∈ word then none else some [word]) ∧
    stringsFrom .between (quoteWord word ++ ' ' :: rest) =
      if '\x00' ∈ word then none else (stringsFrom .between rest).map (word :: ·) := by
  have hopen (after : List Char) : stringsFrom .between (quoteWord word ++ after) =
      if '\x00' ∈ word then none else stringsFrom (.inside word.reverse) ('"' :: after) := by
    have hquoted : quoteWord word ++ after = '"' :: (doubled word ++ '"' :: after) := by
      simp [quoteWord, doubled]
    have hgap : isGap '"' = false := by decide
    rw [hquoted, stringsFrom, hgap, if_neg Bool.false_ne_true, if_pos rfl, stringsFrom_doubled, List.append_nil]
  constructor
  · have hend := hopen []
    rw [List.append_nil] at hend
    rw [hend]
    simp [stringsFrom]
  · rw [hopen]
    simp [stringsFrom, isGap]

/-- Quoted words are read back one by one. -/
theorem stringsFrom_joinWords (ws : List (List Char)) :
    stringsFrom .between (joinWords (ws.map quoteWord)) = if ∃ w ∈ ws, '\x00' ∈ w then none else some ws := by
  induction ws with
  | nil => simp [joinWords, List.intercalate, stringsFrom]
  | cons w ws ih =>
    rcases eq_or_ne ws [] with rfl | hne
    · rw [List.map_singleton, joinWords_single, (stringsFrom_quoteWord w []).1]
      simp
    · rw [List.map_cons, joinWords_cons (by simpa using hne), (stringsFrom_quoteWord w _).2, ih]
      by_cases hzero : '\x00' ∈ w
      · simp [hzero]
      · simp only [hzero, if_false, List.exists_mem_cons_iff, false_or]
        split <;> rfl

/-- A search for the words of a text is read back as these words, in their order, and as nothing else; if the text has
the zero character it cannot be read. -/
theorem strings?_quoteWords (s : String) :
    strings? (quoteWords s) = if '\x00' ∈ s.toList then none else some (words s.toList) := by
  rw [strings?, quoteWords, String.toList_ofList, stringsFrom_joinWords]
  simp only [exists_mem_words (by decide : isSpace '\x00' = false)]

end FullText

/-! ### Filters that look up -/

/-- Codes in lower case have a zero character if they had one before. -/
theorem zero_mem_foldedCode {s : String} : '\x00' ∈ (foldedCode s).toList ↔ '\x00' ∈ s.toList := by
  constructor
  · intro h
    rw [toList_foldedCode] at h
    rcases mem_lowercaseAfter h with hsigma | ⟨c, hc, hlower⟩
    · cases hsigma
    · rcases eq_or_plainChar_of_mem_lower hlower with rfl | hplain
      · exact mem_of_mem_trim hc
      · exact absurd rfl hplain.1
  · intro h
    obtain ⟨a, b, hs⟩ := List.append_of_mem h
    have hself : (foldedCode "\x00").toList = ['\x00'] := by decide +kernel
    have hstretch := foldedCode_of_stretch (s := s) (w := "\x00") (a := a) (m := ['\x00']) (b := b) (by simp [hs])
      (by rw [hself]; rfl)
    rw [hself] at hstretch
    exact (occursIn_iff.mp hstretch).subset (List.mem_singleton_self _)

theorem foldedCode_of_hasFullText {field : Field} {t : Target} (ht : field.target? = some t)
    (hindexed : t.table.hasFullText = true) : t.normalization = .foldedCode := by
  cases field <;> cases ht <;> first | rfl | cases hindexed

/-- What the condition of a filter looks up that asks for what contains a text. -/
structure LooksUp (i : Nat) (v : String) (b : BoundCondition) : Prop where
  test : b.condition.test = .found (parameterName i)
  bound : b.parameters = [(parameterName i, .text (FullText.quoteWords (foldedCode v)))]
  /-- There is a word to look up. -/
  word : words (foldedCode v).toList ≠ []
  /-- The search is read as all its words, or not at all. -/
  strings : FullText.strings? (FullText.quoteWords (foldedCode v)) =
    if '\x00' ∈ v.toList then none else some (words (foldedCode v).toList)
  /-- The condition can be tested unless the search cannot be read. -/
  flaw : ∀ bound : String → Cell, (∀ e ∈ b.parameters, bound e.1 = e.2.cell) →
    b.condition.flaw? bound = if '\x00' ∈ v.toList then some .unreadableSearch else none

theorem looksUp_of_valid {i : Nat} {f : Filter} {t : Target} {v : String} (hf : f.Valid)
    (ht : f.field.target? = some t) (hindexed : t.table.hasFullText = true) (hop : f.op = .contains)
    (hvalue : f.value = .text v) : ∃ b, condition? i f = some b ∧ LooksUp i v b := by
  have hfolded : t.normalization.apply v = foldedCode v := by rw [foldedCode_of_hasFullText ht hindexed]; rfl
  have hstrings : FullText.strings? (FullText.quoteWords (foldedCode v)) =
      if '\x00' ∈ v.toList then none else some (words (foldedCode v).toList) := by
    rw [FullText.strings?_quoteWords]
    simp only [zero_mem_foldedCode]
  refine ⟨_, condition?_eq_some.mpr (.found ht hop hvalue hindexed), rfl, by rw [hfolded], ?_, hstrings, ?_⟩
  · have htrimmed : Filter.Trimmed v := by
      have hfits := hf.value
      rwa [hop, hvalue] at hfits
    have hblank : isBlank v = false := by
      rw [← Bool.not_eq_true, ← trim_eq_empty, htrimmed.1]
      exact htrimmed.2
    have hne : (foldedCode v).toList ≠ [] := fun hnil =>
      foldedCode_ne_empty hblank (String.toList_eq_nil_iff.mp hnil)
    exact words_ne_nil hne (bare_foldedCode v).last
  · intro bound hbound
    have hsearch : bound (parameterName i) = .text (FullText.quoteWords (foldedCode v)) := by
      have hcell := hbound _ (List.mem_singleton_self _)
      rwa [hfolded] at hcell
    simp only [Condition.flaw?, hsearch, Cell.text?, Option.bind_some, hstrings]
    split <;> simp_all

/-- A search for a text is read back as the words of the text exactly if there is no zero character in it; with one the
search has no end, and cannot be read. So it is for what is looked up by filters that ask for what contains the text. -/
theorem search_readsBack_iff (text : String) :
    (FullText.strings? (FullText.quoteWords text) = some (words text.toList) ↔ '\x00' ∉ text.toList) ∧
    ('\x00' ∈ text.toList → FullText.strings? (FullText.quoteWords text) = none) ∧
    ∀ (i : Nat) (f : Filter) (t : Target), f.Valid → f.field.target? = some t → t.table.hasFullText = true →
      f.op = .contains → f.value = .text text → ∃ b, condition? i f = some b ∧ LooksUp i text b := by
  rw [FullText.strings?_quoteWords]
  refine ⟨?_, fun hzero => if_pos hzero, fun _ _ _ hf ht hindexed hop hvalue => looksUp_of_valid hf ht hindexed hop hvalue⟩
  split <;> simp_all

/-- Quotes, stars and names of columns are parts of words, whatever white space stands between these. -/
theorem search_readsBack_iff_operators :
    let v := "Say \"hi* OR\"\u2003title:x"
    ∃ b, condition? 0 ⟨.title, .contains, .text v, false, none, none⟩ = some b ∧ LooksUp 0 v b ∧
      words (foldedCode v).toList = ["say".toList, "\"hi*".toList, "or\"".toList, "title:x".toList] := by
  intro v
  have hvalid : Filter.Valid ⟨.title, .contains, .text v, false, none, none⟩ :=
    ⟨by unfold Filter.ValueFits Filter.Trimmed; decide +kernel, nofun⟩
  obtain ⟨b, hb, hlooks⟩ := (search_readsBack_iff v).2.2 0 _ _ hvalid rfl rfl rfl rfl
  exact ⟨b, hb, hlooks, by decide +kernel⟩

/-- A title with a zero character cannot be looked up: its words are one, but the database reads a string without an
end, and fails. -/
theorem search_unended :
    let v := "a\x00b"
    Filter.Valid ⟨.title, .contains, .text v, false, none, none⟩ ∧
    words v.toList = [v.toList] ∧ FullText.strings? (FullText.quoteWords v) = none ∧
    ∃ s, Statement.ofPlan (containing .title v) = .ok s ∧
      s.run (single .titles "value" "x") = .error (.flawed .unreadableSearch) := by
  intro v
  have hvalid : Filter.Valid ⟨.title, .contains, .text v, false, none, none⟩ :=
    ⟨by unfold Filter.ValueFits Filter.Trimmed; decide +kernel, nofun⟩
  exact ⟨hvalid, by decide +kernel, by decide +kernel, _, rfl, by decide +kernel⟩

end Catalogue.Index
