import Catalogue.Proofs.Text.Letter

/-! The normal form of names. Of a character a match key keeps nothing, a space, or letters, numbers and
hyphens in lower case (`kept_of_passedOver` to `keyChar_iff`), so a key is words of those with single spaces
between them (`NormalForm`), and a text of that form is its own key (`matchKeyChars_eq_self`). A key takes no
notice of other characters, wherever they stand (`passedOver_iff`), and the key of a text that goes on after
a space is made of the keys of both parts (`matchKeyChars_append_space`). `matchKey_normalizes` has all of
this for texts. -/
namespace Catalogue.Text

/-! ### Characters in lower case -/

/-- The code points that have a lower-case form elsewhere. -/
def CaseShift.source (run : CaseShift) : CharRun := ⟨run.first, run.last, run.step⟩

/-- Only alphabetic characters and numbers have a lower-case form elsewhere, and white space is neither. -/
theorem checked_alphanumerics :
    covers 2000 (alphanumerics.flatMap CharRun.pieces)
      ((lowercaseShifts.map CaseShift.source).flatMap CharRun.pieces) = true ∧
    CharSet.Apart spaceMarks alphanumerics := by
  decide +kernel

theorem not_alphanumeric_of_isSpace {c : Char} (h : isSpace c = true) : alphanumerics.holds c = false :=
  checked_alphanumerics.2.not_holds (spaceMarks_of_isSpace h)

/-- A character that is neither alphabetic nor a number is its own lower-case form. -/
theorem lower_of_not_alphanumeric {c : Char} (h : alphanumerics.holds c = false) : lower c = [c] := by
  have hdotted : c ≠ 'İ' := by
    rintro rfl
    rw [alphanumerics_exceptions.1.1] at h
    cases h
  rcases shiftCase_eq (c := c) with ⟨-, heq⟩ | ⟨run, hrun, hholds, -⟩
  · rw [lower, if_neg hdotted, heq]
  · have hsource : CharSet.holds (lowercaseShifts.map CaseShift.source) c = true :=
      List.any_eq_true.mpr ⟨run.source, List.mem_map_of_mem hrun, hholds⟩
    rw [CharSet.holds_of_covers checked_alphanumerics.1 hsource] at h
    cases h

/-- The lower-case form of an alphabetic character or a number other than the dotted capital I is one of those. -/
theorem lower_of_alphanumeric {c : Char} (h : alphanumerics.holds c = true) (hdotted : c ≠ 'İ') :
    ∃ d, lower c = [d] ∧ alphanumerics.holds d = true := by
  refine ⟨shiftCase lowercaseShifts c, if_neg hdotted, ?_⟩
  rcases shiftCase_eq (c := c) with ⟨-, heq⟩ | ⟨run, hrun, hholds, heq⟩
  · rw [heq, h]
  · rw [heq, (alphanumeric_shifted hrun hholds).1]

/-! ### What is kept of a character -/

/-- A character of which a key takes no notice: not alphabetic, no number, no hyphen and no white space. -/
structure PassedOver (c : Char) : Prop where
  other : alphanumerics.holds c = false
  unhyphenated : c ≠ '-'
  solid : isSpace c = false

instance (c : Char) : Decidable (PassedOver c) :=
  decidable_of_iff (alphanumerics.holds c = false ∧ c ≠ '-' ∧ isSpace c = false)
    ⟨fun h => ⟨h.1, h.2.1, h.2.2⟩, fun h => ⟨h.other, h.unhyphenated, h.solid⟩⟩

/-- A character of a word of a key: alphabetic, a number or a hyphen, in lower case and no sharp s. -/
structure KeyLetter (c : Char) : Prop where
  letter : alphanumerics.holds c = true ∨ c = '-'
  lower_eq : lower c = [c]
  plain : c ≠ 'ß'

instance (c : Char) : Decidable (KeyLetter c) :=
  decidable_of_iff ((alphanumerics.holds c = true ∨ c = '-') ∧ lower c = [c] ∧ c ≠ 'ß')
    ⟨fun h => ⟨h.1, h.2.1, h.2.2⟩, fun h => ⟨h.letter, h.lower_eq, h.plain⟩⟩

theorem kept_of_lower_eq {c d : Char} (h : lower c = [d]) : kept [c] = keyCharacters d := by
  simp only [kept, List.flatMap_cons, List.flatMap_nil, List.append_nil, h]

/-- What is kept of a character that is neither alphabetic nor a number and no hyphen. -/
theorem kept_of_not_alphanumeric {c : Char} (h : alphanumerics.holds c = false) (hhyphen : c ≠ '-') :
    kept [c] = if isSpace c then [' '] else [] := by
  have hsharp : c ≠ 'ß' := by
    rintro rfl
    rw [alphanumerics_exceptions.1.2] at h
    cases h
  have hbrackets : isSpace '[' = false ∧ isSpace ']' = false := by decide
  rw [kept_of_lower_eq (lower_of_not_alphanumeric h), keyCharacters, if_neg hsharp]
  split
  · rename_i hbracket
    rw [Bool.or_eq_true, decide_eq_true_eq, decide_eq_true_eq] at hbracket
    rcases hbracket with rfl | rfl
    · rw [hbrackets.1, if_neg Bool.false_ne_true]
    · rw [hbrackets.2, if_neg Bool.false_ne_true]
  · rw [h, decide_eq_false hhyphen, Bool.or_false, if_neg Bool.false_ne_true]

theorem kept_of_passedOver {c : Char} (h : PassedOver c) : kept [c] = [] := by
  rw [kept_of_not_alphanumeric h.other h.unhyphenated, h.solid, if_neg Bool.false_ne_true]

theorem kept_of_isSpace {c : Char} (h : isSpace c = true) : kept [c] = [' '] := by
  have hhyphen : c ≠ '-' := by
    rintro rfl
    cases h
  rw [kept_of_not_alphanumeric (not_alphanumeric_of_isSpace h) hhyphen, if_pos h]

/-- The letters that the dotted capital I and the sharp s become, a hyphen and any plain letter. -/
theorem keyLetters : (KeyLetter 'i' ∧ KeyLetter 's') ∧ KeyLetter '-' ∧ KeyLetter 'a' := by decide +kernel

theorem KeyLetter.kept_eq {c : Char} (h : KeyLetter c) : kept [c] = [c] := by
  rw [kept_of_lower_eq h.lower_eq]
  rcases h.letter with halphanumeric | rfl
  · rw [keyCharacters_of_alphanumeric halphanumeric, if_neg h.plain]
  · simp [keyCharacters]

theorem KeyLetter.isSpace_eq {c : Char} (h : KeyLetter c) : isSpace c = false := by
  refine Bool.eq_false_iff.mpr fun hspace => ?_
  rcases h.letter with halphanumeric | rfl
  · rw [not_alphanumeric_of_isSpace hspace] at halphanumeric
    cases halphanumeric
  · cases hspace

/-- Of an alphabetic character, a number or a hyphen something is kept, and nothing but characters of words. -/
theorem kept_of_word {c : Char} (h : alphanumerics.holds c = true ∨ c = '-') :
    kept [c] ≠ [] ∧ ∀ d ∈ kept [c], KeyLetter d := by
  rcases h with h | rfl
  · by_cases hdotted : c = 'İ'
    · rw [hdotted, alphanumerics_exceptions.2.2]
      exact ⟨List.cons_ne_nil _ _, List.forall_mem_singleton.mpr keyLetters.1.1⟩
    · obtain ⟨d, hlower, hd⟩ := lower_of_alphanumeric h hdotted
      rw [kept_of_lower_eq hlower, keyCharacters_of_alphanumeric hd]
      split
      · exact ⟨List.cons_ne_nil _ _, by simp [keyLetters.1.2]⟩
      · rename_i hsharp
        have hself : lower d = [d] := (lower_of_mem_lower (hlower ▸ List.mem_singleton_self d)).lower_eq
        exact ⟨List.cons_ne_nil _ _, List.forall_mem_singleton.mpr ⟨.inl hd, hself, hsharp⟩⟩
  · rw [keyLetters.2.1.kept_eq]
    exact ⟨List.cons_ne_nil _ _, List.forall_mem_singleton.mpr keyLetters.2.1⟩

/-- The characters that are their own match keys are those of words, and the space. -/
theorem keyChar_iff {c : Char} : KeyChar c ↔ c = ' ' ∨ KeyLetter c := by
  constructor
  · intro h
    by_cases hword : alphanumerics.holds c = true ∨ c = '-'
    · have hself : c ∈ kept [c] := by
        rw [h]
        exact List.mem_singleton_self c
      exact .inr ((kept_of_word hword).2 c hself)
    · rw [not_or, Bool.not_eq_true] at hword
      rw [KeyChar, kept_of_not_alphanumeric hword.1 hword.2] at h
      split at h
      · exact .inl (List.cons.inj h).1.symm
      · cases h
  · rintro (rfl | h)
    · exact keyChar_space
    · exact h.kept_eq

/-! ### The normal form -/

/-- Words of letters, numbers and hyphens in lower case, with single spaces between them and none at the ends. -/
structure NormalForm (s : List Char) : Prop where
  spaced : s = joinWords (words s)
  letters : ∀ w ∈ words s, ∀ c ∈ w, KeyLetter c

theorem words_matchKeyChars (s : List Char) : words (matchKeyChars s) = words (kept s) :=
  words_joinWords fun _ => isWord_of_mem_words

theorem normalForm_matchKeyChars (s : List Char) : NormalForm (matchKeyChars s) := by
  constructor
  · rw [words_matchKeyChars]
    rfl
  · intro w hw c hc
    have hkept := (mem_of_mem_wordsFrom hw hc).resolve_left List.not_mem_nil
    refine (keyChar_iff.mp (keyChar_of_mem_matchKeyChars hkept)).resolve_left ?_
    rintro rfl
    cases (isWord_of_mem_words hw).solid ' ' hc

/-- The texts that are their own match keys are those in normal form. -/
theorem matchKeyChars_eq_self {s : List Char} : matchKeyChars s = s ↔ NormalForm s := by
  constructor
  · exact fun h => h ▸ normalForm_matchKeyChars s
  · refine fun h => matchKeyChars_eq (fun c hc => keyChar_iff.mpr ?_) h.spaced
    rw [h.spaced] at hc
    exact (mem_joinWords hc).imp_right fun ⟨w, hw, hc⟩ => h.letters w hw c hc

/-! ### Keys of texts that are put together -/

/-- Words that are joined are joined from two parts of them, those that are not empty. -/
theorem joinWords_parts {vs ws : List (List Char)} (hv : ∀ w ∈ vs, IsWord w) (hw : ∀ w ∈ ws, IsWord w) :
    joinWords (vs ++ ws) = joinWords ([joinWords vs, joinWords ws].filter (· ≠ [])) := by
  have hnone : joinWords [] = [] := rfl
  rcases eq_or_ne vs [] with rfl | hvs <;> rcases eq_or_ne ws [] with rfl | hws
  · rfl
  · have hright : joinWords ws ≠ [] := joinWords_ne_nil hw hws
    simp [hnone, hright, joinWords_single]
  · have hleft : joinWords vs ≠ [] := joinWords_ne_nil hv hvs
    simp [hnone, hleft, joinWords_single]
  · have hleft : joinWords vs ≠ [] := joinWords_ne_nil hv hvs
    have hright : joinWords ws ≠ [] := joinWords_ne_nil hw hws
    rw [joinWords_append hvs hws, List.filter_cons_of_pos (by simpa using hleft),
      List.filter_cons_of_pos (by simpa using hright), List.filter_nil, joinWords_cons (List.cons_ne_nil _ _),
      joinWords_single]

/-- The key of a text that goes on after a space is made of the keys of both parts, those that are not empty. -/
theorem matchKeyChars_append_space (s t : List Char) : matchKeyChars (s ++ ' ' :: t) =
    joinWords ([matchKeyChars s, matchKeyChars t].filter (· ≠ [])) := by
  have hkept : kept (s ++ ' ' :: t) = kept s ++ ' ' :: kept t := by
    rw [kept_append, kept_cons, keyChar_space]
    rfl
  have hwords : words (kept (s ++ ' ' :: t)) = words (kept s) ++ words (kept t) := by
    rw [hkept, words_append _ (by rintro c ⟨⟩; rfl), words_cons_space rfl]
  show joinWords (words (kept (s ++ ' ' :: t))) = _
  rw [hwords]
  exact joinWords_parts (fun _ => isWord_of_mem_words) fun _ => isWord_of_mem_words

/-- A key is the same with and without a character that is passed over, and of no other character is that so. -/
theorem passedOver_iff {c : Char} :
    PassedOver c ↔ ∀ s t : List Char, matchKeyChars (s ++ c :: t) = matchKeyChars (s ++ t) := by
  constructor
  · intro h s t
    have hkept : kept (s ++ c :: t) = kept (s ++ t) := by
      rw [kept_append, kept_cons, kept_of_passedOver h, List.nil_append, ← kept_append]
    exact congrArg (fun k => joinWords (words k)) hkept
  · intro h
    have halone : ¬(alphanumerics.holds c = true ∨ c = '-') := fun hc => by
      -- By itself such a character has a key.
      obtain ⟨hsome, hletters⟩ := kept_of_word hc
      have hword : IsWord (kept [c]) := ⟨hsome, fun d hd => (hletters d hd).isSpace_eq⟩
      have hempty : joinWords (words (kept [c])) = [] := h [] []
      rw [hword.words_eq, joinWords_single] at hempty
      exact hsome hempty
    rw [not_or, Bool.not_eq_true] at halone
    refine ⟨halone.1, halone.2, Bool.eq_false_iff.mpr fun hspace => ?_⟩
    -- Between two words white space keeps them apart.
    have hletter : kept ['a'] = ['a'] := keyLetters.2.2.kept_eq
    have hapart : kept (['a'] ++ c :: ['a']) = ['a', ' ', 'a'] := by
      rw [kept_append, kept_cons c, kept_of_isSpace hspace, hletter]
      rfl
    have htogether : kept (['a'] ++ ['a']) = ['a', 'a'] := by
      rw [kept_append, hletter]
      rfl
    have hsame : joinWords (words (kept (['a'] ++ c :: ['a']))) = joinWords (words (kept (['a'] ++ ['a']))) := h ['a'] ['a']
    rw [hapart, htogether] at hsame
    exact absurd hsame (by decide)

theorem passedOver_brackets : PassedOver '[' ∧ PassedOver ']' :=
  ⟨⟨alphanumerics_exceptions.2.1.1, by decide, by decide⟩, alphanumerics_exceptions.2.1.2, by decide, by decide⟩

/-! ### Texts -/

/-- Match keys are a normal form: every key has it, the texts that have it are their own keys, so a key is its own; a
key takes no notice of brackets and of all other characters that are passed over, and of no others; and the key of two
texts with a space between them is made of theirs. The folded code of a text is its own folded code as well. -/
theorem matchKey_normalizes :
    (∀ s, NormalForm (matchKey s).toList) ∧
    (∀ s, matchKey s = s ↔ NormalForm s.toList) ∧
    (∀ s, matchKey (matchKey s) = matchKey s) ∧
    (∀ c, PassedOver c ↔ ∀ s t : String, matchKey (s ++ String.singleton c ++ t) = matchKey (s ++ t)) ∧
    (PassedOver '[' ∧ PassedOver ']') ∧
    (∀ s t, matchKey (s ++ " " ++ t) = " ".intercalate ([matchKey s, matchKey t].filter (· ≠ ""))) ∧
    ∀ s, foldedCode (foldedCode s) = foldedCode s := by
  refine ⟨fun s => ?_, fun s => ?_, matchKey_matchKey, fun c => ?_, passedOver_brackets, fun s t => ?_,
    foldedCode_foldedCode⟩
  · rw [matchKey, String.toList_ofList]
    exact normalForm_matchKeyChars _
  · rw [← matchKeyChars_eq_self, matchKey, ← String.toList_inj, String.toList_ofList]
  · rw [passedOver_iff]
    constructor
    · intro h s t
      have hsame := h s.toList t.toList
      simp [matchKey, hsame]
    · intro h s t
      have hsame := h (String.ofList s) (String.ofList t)
      simpa [matchKey, String.ofList_inj] using hsame
  · have hparts : ([matchKey s, matchKey t].filter (· ≠ "")).map String.toList =
        [matchKeyChars s.toList, matchKeyChars t.toList].filter (· ≠ []) := by
      simp only [matchKey, List.filter_cons]
      split <;> split <;> simp_all
    rw [← String.toList_inj, String.toList_intercalate, hparts]
    have hwhole : (s ++ " " ++ t).toList = s.toList ++ ' ' :: t.toList := by simp
    rw [matchKey, String.toList_ofList, hwhole]
    exact matchKeyChars_append_space s.toList t.toList

end Catalogue.Text
