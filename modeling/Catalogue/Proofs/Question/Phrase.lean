import Catalogue.Proofs.Pattern.Outcome
import Catalogue.Proofs.Text.Letter
import Catalogue.Question.Phrase

/-! Phrases in questions that are words of letters with spaces between (`Lettered`). There a part of a phrase
that matches words matches whole words of the question, if white space and edges of words stand about it
(`stands_first`, `stands_between`, `stands_last`). So such a question names no publisher unless it has the word
by, or the word publisher before another word (`no_publisher`), and it names years only by the word
century (`no_years`). -/
namespace Catalogue.Question

open Text Pattern

/-- Letters and spaces. -/
def Lettered (text : List Char) : Prop := ∀ c ∈ text, letters.holds c = true ∨ c = ' '

/-- Characters of words, and spaces. -/
def Worded (text : List Char) : Prop := ∀ c ∈ text, wordCharacters.holds c = true ∨ c = ' '

/-- White space, one character or more. -/
structure IsGap (s : List Char) : Prop where
  nonempty : s ≠ []
  space : ∀ c ∈ s, isSpace c = true

/-- A word, with white space or the end of the text on either side. -/
structure Stands (l w r : List Char) : Prop where
  word : IsWord w
  left : ∀ c ∈ l.getLast?, isSpace c = true
  right : ∀ c ∈ r.head?, isSpace c = true

variable {l x r text w : List Char} {cs : Captures} {p q : Pattern}

theorem Stands.words_eq (h : Stands l w r) : words (l ++ (w ++ r)) = words l ++ w :: words r := by
  rw [← List.append_assoc]
  exact words_between h.left h.word h.right

theorem Stands.mem_words (h : Stands l w r) : w ∈ words (l ++ (w ++ r)) := by
  rw [h.words_eq]
  simp

/-! ### Characters -/

theorem isGap_space : IsGap [' '] := ⟨List.cons_ne_nil _ _, List.forall_mem_singleton.mpr rfl⟩

theorem IsGap.left {s : List Char} (h : IsGap s) (l : List Char) : ∀ c ∈ (l ++ s).getLast?, isSpace c = true := by
  intro c hc
  rw [List.getLast?_append_of_ne_nil l h.nonempty] at hc
  exact h.space c (List.mem_of_mem_getLast? hc)

theorem IsGap.right {s : List Char} (h : IsGap s) (r : List Char) : ∀ c ∈ (s ++ r).head?, isSpace c = true := by
  intro c hc
  rw [List.head?_append_of_ne_nil s h.nonempty] at hc
  exact h.space c (List.mem_of_mem_head? hc)

theorem Lettered.worded (h : Lettered text) : Worded text := fun c hc => (h c hc).imp_left wordCharacter_of_letter

/-- A character of such a text that is no space is one of words. -/
theorem Worded.solid {c : Char} (h : Worded text) (hc : c ∈ text) (hspace : isSpace c = false) :
    wordCharacters.holds c = true := by
  refine (h c hc).resolve_right ?_
  rintro rfl
  cases hspace

/-- A character of such a text that is none of words is a space. -/
theorem Worded.space {c : Char} (h : Worded text) (hc : c ∈ text) (hword : wordCharacters.holds c = false) :
    isSpace c = true := by
  rcases h c hc with hheld | rfl
  · rw [hheld] at hword
    cases hword
  · rfl

theorem Lettered.unmarked {c : Char} (h : Lettered text) (hc : c ∈ text) :
    c = ' ' ∨ marks.holds c = false ∧ decimalDigits.holds c = false :=
  (h c hc).elim (fun hletter => .inr (marks_of_letter hletter)) .inl

theorem Lettered.undigit {c : Char} (h : Lettered text) (hc : c ∈ text) : decimalDigits.holds c = false := by
  rcases h.unmarked hc with rfl | hc
  · decide +kernel
  · exact hc.2

theorem isSpace_of_letterAnyCase {c : Char} (h : isLetterAnyCase c = true) : isSpace c = false := by
  rcases (Bool.or_eq_true _ _).mp h with hletter | hmark
  · exact isSpace_of_letter hletter
  · rw [beq_iff_eq.mp hmark]
    decide

theorem letterAnyCase_of_letter {c : Char} (h : letters.holds c = true) : isLetterAnyCase c = true := by
  rw [isLetterAnyCase, h, Bool.true_or]

/-! ### Edges of words -/

theorem left_of_edge (h : Worded (l ++ (w ++ r))) (hw : IsWord w) (hedge : Edge l (w ++ r)) :
    ∀ c ∈ l.getLast?, isSpace c = true := by
  intro c hc
  obtain ⟨d, w, rfl⟩ := List.exists_cons_of_ne_nil hw.nonempty
  have hfirst : wordCharacters.holds d = true := h.solid (by simp) (hw.solid d (by simp))
  refine h.space (by simp [List.mem_of_mem_getLast? hc]) ?_
  simpa [Edge, Option.mem_def.mp hc, hfirst] using hedge

theorem right_of_edge (h : Worded (l ++ (w ++ r))) (hw : IsWord w) (hedge : Edge (l ++ w) r) :
    ∀ c ∈ r.head?, isSpace c = true := by
  intro c hc
  obtain ⟨w, d, rfl⟩ := List.eq_nil_or_concat w |>.resolve_left hw.nonempty
  have hlast : wordCharacters.holds d = true := h.solid (by simp) (hw.solid d (by simp))
  refine h.space (by simp [List.mem_of_mem_head? hc]) ?_
  simpa [Edge, Option.mem_def.mp hc, ← List.append_assoc, hlast] using hedge

/-! ### Parts that match words -/

/-- Whether whatever a pattern matches is a word. -/
def MatchesWords (p : Pattern) : Prop := ∀ {l x r cs}, p.Fits l x r cs → IsWord x

theorem isSpace_of_foldsTo {letter c : Char} (h : foldsTo letter c = true) (hletter : isSpace letter = false) :
    isSpace c = false := by
  simp only [foldsTo, Bool.or_eq_true, Bool.and_eq_true, beq_iff_eq] at h
  rcases h with (h | ⟨-, rfl⟩) | ⟨-, rfl⟩
  · rw [← (lower_toLower c).2.1, h, hletter]
  · decide
  · decide

theorem isWord_of_reads {v : String} (hv : IsWord v.toList) (h : Reads v x) : IsWord x := by
  obtain ⟨hne, hsolid⟩ := hv
  unfold Reads at h
  generalize v.toList = letters at hne hsolid h
  refine ⟨fun hnil => hne ?_, ?_⟩
  · rw [hnil] at h
    exact List.forall₂_nil_right_iff.mp h
  · clear hne
    induction h with
    | nil => simp
    | cons hc _ ih =>
      obtain ⟨hletter, hrest⟩ := List.forall_mem_cons.mp hsolid
      exact List.forall_mem_cons.mpr ⟨isSpace_of_foldsTo hc hletter, ih hrest⟩

theorem matchesWords_word {v : String} (hv : IsWord v.toList) : MatchesWords (word v) :=
  fun h => isWord_of_reads hv (fits_word.mp h).1

theorem fits_words (vs : List String) : (oneOf (vs.map word)).Fits l x r cs ↔ (∃ v ∈ vs, Reads v x) ∧ cs = [] := by
  rw [fits_oneOf]
  simp [fits_word, ← exists_and_right, and_assoc]

theorem matchesWords_words (vs : List String) (hvs : ∀ v ∈ vs, IsWord v.toList) :
    MatchesWords (oneOf (vs.map word)) := by
  intro l x r cs h
  obtain ⟨⟨v, hv, hreads⟩, -⟩ := (fits_words vs).mp h
  exact isWord_of_reads (hvs v hv) hreads

theorem matchesWords_capture {n : Nat} (h : MatchesWords p) : MatchesWords (capture n p) := by
  rintro l x r _ ⟨cs, -, hfits⟩
  exact h hfits

theorem captures_of_languageGroup (h : languageGroup.Fits l x r cs) : cs = [(1, x)] := by
  obtain ⟨_, rfl, h⟩ := h
  obtain ⟨-, -, -, -, -, rfl⟩ := fits_one_then.mp h
  rfl

theorem matchesWords_languageGroup : MatchesWords languageGroup := by
  refine matchesWords_capture fun h => ?_
  obtain ⟨c, y, rfl, hc, hy, -⟩ := fits_one_then.mp h
  refine ⟨List.cons_ne_nil c y, List.forall_mem_cons.mpr ⟨isSpace_of_letterAnyCase hc, fun d hd => ?_⟩⟩
  rcases (Bool.or_eq_true _ _).mp (hy d hd) with hletter | hhyphen
  · exact isSpace_of_letterAnyCase hletter
  · rw [beq_iff_eq.mp hhyphen]
    decide

/-- Whatever reads as a word without k and s is that word, but for capital letters. -/
theorem map_toLower_of_reads {v : String} (hv : 'k' ∉ v.toList ∧ 's' ∉ v.toList) (h : Reads v x) :
    x.map Char.toLower = v.toList := by
  unfold Reads at h
  generalize v.toList = letters at hv h
  induction h with
  | nil => rfl
  | @cons letter c letters x hc _ ih =>
    simp only [List.mem_cons, not_or] at hv
    obtain ⟨⟨hk, hks⟩, hs, hss⟩ := hv
    simp only [foldsTo, Bool.or_eq_true, Bool.and_eq_true, beq_iff_eq, Ne.symm hk, Ne.symm hs, false_and,
      or_false] at hc
    rw [List.map_cons, hc, ih ⟨hks, hss⟩]

/-- Of a word without k and s, whatever reads as it has the same key. -/
theorem kept_of_reads {v : String} (hv : 'k' ∉ v.toList ∧ 's' ∉ v.toList) (h : Reads v x) :
    kept x = kept v.toList := by
  rw [← map_toLower_of_reads hv h, kept, kept, List.flatMap_map]
  simp only [(lower_toLower _).1]

/-- Of a word in lower case without k and s, whatever reads as it is that word when it is put in lower case. -/
theorem lowercase_of_reads {v : String} (hv : 'k' ∉ v.toList ∧ 's' ∉ v.toList) (hlower : LowerText v.toList)
    (h : Reads v x) : lowercase (String.ofList x) = v := by
  have hlowered := lowercaseAfter_of_map hlower (map_toLower_of_reads hv h) [] []
  rw [List.append_nil, lowercaseAfter, List.append_nil] at hlowered
  rw [lowercase, String.toList_ofList, hlowered, String.ofList_toList]

/-! ### Parts between white space -/

theorem fits_spaces : spaces.Fits l x r cs ↔ IsGap x ∧ cs = [] := by
  rw [spaces, space, fits_plus_one, ← and_assoc]
  exact and_congr_left' ⟨fun h => ⟨h.1, h.2⟩, fun h => ⟨h.1, h.2⟩⟩

/-- One space is enough between two parts. -/
theorem fits_spaced {y z : List Char} {as bs : Captures} (hq : q.Fits l y (' ' :: z ++ r) as)
    (hp : p.Fits (l ++ y ++ [' ']) z r bs) : (seq q (seq spaces p)).Fits l (y ++ ' ' :: z) r (bs ++ as) := by
  have hgap : spaces.Fits (l ++ y) [' '] (z ++ r) [] :=
    fits_spaces.mpr ⟨isGap_space, rfl⟩
  have hlater : (seq spaces p).Fits (l ++ y) (' ' :: z) r bs :=
    ⟨[' '], z, [], bs, rfl, (List.append_nil bs).symm, hgap, hp⟩
  exact ⟨y, ' ' :: z, as, bs, rfl, rfl, hq, hlater⟩

/-- A part that white space follows. -/
theorem stands_before_gap (hq : MatchesWords q) (hl : ∀ c ∈ l.getLast?, isSpace c = true)
    (h : (seq q (seq spaces p)).Fits l x r cs) :
    ∃ w s y as bs, x = w ++ (s ++ y) ∧ cs = bs ++ as ∧ q.Fits l w (s ++ (y ++ r)) as ∧
      Stands l w (s ++ (y ++ r)) ∧ IsGap s ∧ p.Fits (l ++ w ++ s) y r bs := by
  obtain ⟨w, z, as, bs, rfl, rfl, hw, s, y, _, ds, rfl, rfl, hs, hy⟩ := h
  obtain ⟨hgap, rfl⟩ := fits_spaces.mp hs
  rw [List.append_assoc] at hw
  refine ⟨w, s, y, as, ds, rfl, by simp, hw, ⟨hq hw, hl, hgap.right _⟩, hgap, hy⟩

/-- A part between the edge of a word and white space. -/
theorem stands_first (hworded : Worded (l ++ (x ++ r))) (hq : MatchesWords q)
    (h : (seq wordEdge (seq q (seq spaces p))).Fits l x r cs) :
    ∃ w s y as bs, x = w ++ (s ++ y) ∧ cs = bs ++ as ∧ q.Fits l w (s ++ (y ++ r)) as ∧
      Stands l w (s ++ (y ++ r)) ∧ IsGap s ∧ p.Fits (l ++ w ++ s) y r bs := by
  obtain ⟨_, z, _, bs, rfl, rfl, ⟨rfl, hedge, rfl⟩, h⟩ := h
  rw [List.append_nil] at h
  rw [List.nil_append] at hworded
  obtain ⟨w, y, as, ds, rfl, -, hw, -⟩ := fits_seq.mp h
  rw [List.append_assoc] at hworded hedge
  have hleft := left_of_edge hworded (hq hw) hedge
  simpa using stands_before_gap hq hleft h

/-- A part between white space. -/
theorem stands_between (hq : MatchesWords q) (h : (seq spaces (seq q (seq spaces p))).Fits l x r cs) :
    ∃ s w t y as bs, x = s ++ (w ++ (t ++ y)) ∧ cs = bs ++ as ∧ IsGap s ∧ q.Fits (l ++ s) w (t ++ (y ++ r)) as ∧
      Stands (l ++ s) w (t ++ (y ++ r)) ∧ IsGap t ∧ p.Fits (l ++ s ++ w ++ t) y r bs := by
  obtain ⟨s, z, _, bs, rfl, rfl, hs, h⟩ := h
  obtain ⟨hgap, rfl⟩ := fits_spaces.mp hs
  obtain ⟨w, t, y, as, ds, rfl, rfl, hw, hstands, ht, hy⟩ := stands_before_gap hq (hgap.left l) h
  exact ⟨s, w, t, y, as, ds, rfl, by simp, hgap, hw, hstands, ht, hy⟩

/-- A part between white space and the edge of a word. -/
theorem stands_last (hworded : Worded (l ++ (x ++ r))) (hq : MatchesWords q)
    (hl : ∀ c ∈ l.getLast?, isSpace c = true) (h : (seq q wordEdge).Fits l x r cs) :
    q.Fits l x r cs ∧ Stands l x r := by
  obtain ⟨w, _, as, _, rfl, rfl, hw, rfl, hedge, rfl⟩ := h
  rw [List.append_nil] at hworded
  simp only [List.append_nil, List.nil_append] at hw hedge ⊢
  exact ⟨hw, hq hw, hl, right_of_edge hworded (hq hw) hedge⟩

/-- Before a space or the end of the text, a word of letters is all of a run of letters and hyphens. -/
theorem takeWhile_letters (hx : ∀ c ∈ x, letters.holds c = true) (hr : ∀ c ∈ r.head?, c = ' ') :
    (x ++ r).takeWhile (fun c => isLetterAnyCase c || c == '-') = x := by
  have hfirst : ∀ c ∈ x, (isLetterAnyCase c || c == '-') = true := fun c hc => by
    rw [letterAnyCase_of_letter (hx c hc), Bool.true_or]
  have hsecond : r.takeWhile (fun c => isLetterAnyCase c || c == '-') = [] := by
    cases r with
    | nil => rfl
    | cons c r =>
      obtain rfl := hr c rfl
      refine List.takeWhile_cons_of_neg fun hspace => ?_
      cases isSpace_of_letterAnyCase (((Bool.or_eq_true ..).mp hspace).resolve_right (by decide))
  rw [List.takeWhile_append_of_pos hfirst, hsecond, List.append_nil]

/-- What is captured after in: the run of letters and hyphens there, as far as it goes. -/
theorem head_after_in {ahead : List Char} {m : Place}
    (hm : ((seq wordEdge (seq (word "in") (seq spaces languageGroup))).outcomes (.between l ahead [])).head? =
      some m) :
    ∃ w s c rest, ahead = w ++ (s ++ c :: rest) ∧ Edge l ahead ∧ Reads "in" w ∧ IsGap s ∧
      isLetterAnyCase c = true ∧
      m = .between (l ++ w ++ s ++ c :: rest.takeWhile fun c => isLetterAnyCase c || c == '-')
        (rest.dropWhile fun c => isLetterAnyCase c || c == '-')
        [(1, c :: rest.takeWhile fun c => isLetterAnyCase c || c == '-')] := by
  obtain ⟨_, hat, hm⟩ := exists_head_of_seq hm
  obtain ⟨_, r, _, rfl, ⟨rfl, hedge, rfl⟩, rfl⟩ := (mem_outcomes _).mp hat
  obtain ⟨_, hword, hm⟩ := exists_head_of_seq hm
  obtain ⟨w, r, _, rfl, hw, rfl⟩ := (mem_outcomes _).mp hword
  obtain ⟨hreads, rfl⟩ := fits_word.mp hw
  obtain ⟨_, hspaces, hm⟩ := exists_head_of_seq hm
  obtain ⟨s, y, _, rfl, hs, rfl⟩ := (mem_outcomes _).mp hspaces
  obtain ⟨hgap, rfl⟩ := fits_spaces.mp hs
  obtain ⟨c, rest, rfl, hc, rfl⟩ := head_capture_run hm
  rw [List.append_nil]
  exact ⟨w, s, c, rest, rfl, hedge, hreads, hgap, hc, rfl⟩

/-! ### Phrases without matches -/

theorem find_eq_none {α : Type} {ph : Phrase α} (h : ∀ l x r cs, text = l ++ (x ++ r) → ¬ph.pattern.Fits l x r cs) :
    ph.find text = none := by
  rw [Phrase.find, allMatches_eq_nil_iff.mpr h]
  rfl

theorem find_eq_none_of_take {α : Type} {ph : Phrase α} (h : ∀ m ∈ ph.pattern.allMatches text, ph.take m = none) :
    ph.find text = none := List.findSome?_eq_none_iff.mpr h

/-- What is taken from every match is found, if there is a match. -/
theorem find_eq_some {α : Type} {ph : Phrase α} {a : α} (htaken : ∀ m ∈ ph.pattern.allMatches text, ph.take m = some a)
    (htext : text = l ++ (x ++ r)) (hfits : ph.pattern.Fits l x r cs) : ph.find text = some a := by
  have hsome : ph.pattern.allMatches text ≠ [] := fun hnil => allMatches_eq_nil_iff.mp hnil l x r cs htext hfits
  obtain ⟨m, ms, hms⟩ := List.exists_cons_of_ne_nil hsome
  rw [Phrase.find, hms, List.findSome?_cons, htaken m (hms ▸ List.mem_cons_self ..)]

/-- If the first phrase is found, the others do not count. -/
theorem firstPhrase_of_find {α : Type} {ph : Phrase α} {rest : List (Phrase α)} {a : α} (h : ph.find text = some a) :
    firstPhrase (ph :: rest) text = some (ph.name, a) := by
  rw [firstPhrase, List.findSome?_cons, h]
  rfl

theorem firstPhrase_eq_none {α : Type} {phrases : List (Phrase α)} (h : ∀ ph ∈ phrases, ph.find text = none) :
    firstPhrase phrases text = none := by
  rw [firstPhrase, List.findSome?_eq_none_iff]
  intro ph hph
  rw [h ph hph]
  rfl

theorem group_between (l r w : List Char) : group 1 (.between l r [(1, w)]) = some (trim (String.ofList w)) := rfl

/-! ### Publishers -/

theorem no_publisher (hlettered : Lettered text) (hbare : Bare text) (hby : ∀ w ∈ words text, ¬Reads "by" w)
    (hpublisher : ∀ w ∈ (words text).dropLast, ¬Reads "publisher" w) : firstPhrase publisherPhrases text = none := by
  have hafter {q : Pattern} {l x r : List Char} {cs : Captures} (htext : text = l ++ (x ++ r))
      (h : (seq wordEdge (seq q (seq spaces (seq (word "by") (seq spaces freeName))))).Fits l x r cs) : False := by
    obtain ⟨_, _, _, _, rfl, rfl, -, _, _, _, _, rfl, rfl, -, h⟩ := h
    obtain ⟨s, w, t, y, _, _, rfl, -, -, hw, hstands, -⟩ := stands_between (matchesWords_word (by decide)) h
    refine hby w ?_ (fits_word.mp hw).1
    have hmem := hstands.mem_words
    simpa [htext] using hmem
  refine firstPhrase_eq_none fun ph hph => find_eq_none fun l x r cs htext h => ?_
  simp only [publisherPhrases, List.mem_cons, List.not_mem_nil, or_false] at hph
  rcases hph with rfl | rfl | rfl
  · exact hafter htext h
  · obtain ⟨w, s, y, _, _, rfl, -, hw, hstands, hgap, -⟩ :=
      stands_first (htext ▸ hlettered.worded) (matchesWords_word (by decide)) h
    have hsplit : text = l ++ (w ++ (s ++ (y ++ r))) := by simp [htext]
    -- The text does not end with white space, so a word follows.
    have hmore : words (s ++ (y ++ r)) ≠ [] := by
      have hne : s ++ (y ++ r) ≠ [] := by simp [hgap.nonempty]
      refine words_ne_nil hne fun c hc => hbare.last c ?_
      rwa [hsplit, ← List.append_assoc, List.getLast?_append_of_ne_nil _ hne]
    refine hpublisher w ?_ (fits_word.mp hw).1
    rw [hsplit, hstands.words_eq, List.dropLast_append_of_ne_nil (List.cons_ne_nil _ _),
      List.dropLast_cons_of_ne_nil hmore]
    simp
  · exact hafter htext h

/-! ### Years -/

/-- Whether whatever a pattern matches has a digit in it. -/
def NeedsDigit (p : Pattern) : Prop := ∀ l x r cs, p.Fits l x r cs → ∃ c ∈ x, decimalDigits.holds c = true

theorem NeedsDigit.left (h : NeedsDigit p) : NeedsDigit (seq p q) := by
  rintro l _ r _ ⟨y, z, _, _, rfl, rfl, hy, -⟩
  obtain ⟨c, hc, hdigit⟩ := h _ _ _ _ hy
  exact ⟨c, List.mem_append_left z hc, hdigit⟩

theorem NeedsDigit.right (h : NeedsDigit q) : NeedsDigit (seq p q) := by
  rintro l _ r _ ⟨y, z, _, _, rfl, rfl, -, hz⟩
  obtain ⟨c, hc, hdigit⟩ := h _ _ _ _ hz
  exact ⟨c, List.mem_append_right y hc, hdigit⟩

theorem needsDigit_times {n low more : Nat} : NeedsDigit (capture n (times digit (low + 1) more)) := by
  have hdigit : NeedsDigit digit := by
    rintro l x r cs ⟨⟨c, rfl, hc⟩, -⟩
    exact ⟨c, List.mem_singleton_self c, hc⟩
  rintro l x r _ ⟨as, -, hfits⟩
  rw [times] at hfits
  exact hdigit.left _ _ _ _ hfits

theorem no_years (hlettered : Lettered text) (hcentury : ∀ w ∈ words text, ¬Reads "century" w) :
    firstPhrase yearPhrases text = none := by
  have hdigit {ph : Phrase (Int × Int)} (h : NeedsDigit ph.pattern) : ph.find text = none := by
    refine find_eq_none fun l x r cs htext hfits => ?_
    obtain ⟨c, hc, hdigit⟩ := h _ _ _ _ hfits
    rw [hlettered.undigit (c := c) (by simp [htext, hc])] at hdigit
    cases hdigit
  refine firstPhrase_eq_none fun ph hph => ?_
  simp only [yearPhrases, List.mem_cons, List.not_mem_nil, or_false] at hph
  rcases hph with rfl | rfl | rfl | rfl | rfl | rfl
  · exact hdigit needsDigit_times.left.right.right.left.right
  · exact hdigit needsDigit_times.left.right.right.left.right
  · exact hdigit needsDigit_times.left.right
  · exact hdigit needsDigit_times.left.right
  · refine find_eq_none fun l x r cs htext h => ?_
    obtain ⟨_, _, _, _, rfl, rfl, -, l', _, _, _, rfl, rfl, -, s, w, _, _, rfl, rfl, hs, h⟩ := h
    obtain ⟨hne, hseparate, rfl⟩ := fits_plus_one.mp hs
    have hgap : IsGap s := by
      refine ⟨hne, fun c hc => ?_⟩
      rcases (Bool.or_eq_true _ _).mp (hseparate c hc) with hspace | hhyphen
      · exact hspace
      · obtain rfl := beq_iff_eq.mp hhyphen
        rcases hlettered.unmarked (c := '-') (by simp [htext, hc]) with h | ⟨hmark, -⟩
        · cases h
        · exact absurd hmark (by decide +kernel)
    obtain ⟨hw, hstands⟩ := stands_last (by simpa [htext] using hlettered.worded) (matchesWords_word (by decide))
      (hgap.left _) h
    refine hcentury w ?_ (fits_word.mp hw).1
    have hmem := hstands.mem_words
    simpa [htext] using hmem
  · exact hdigit needsDigit_times.right.right.left.right

end Catalogue.Question
