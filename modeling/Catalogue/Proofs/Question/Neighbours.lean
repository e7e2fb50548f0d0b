import Catalogue.Proofs.Question.Taken

/-! Words that stand side by side. A phrase of several parts matches words that are neighbours in the question
(`first_neighbours`, `last_neighbours`), so which phrases match can be read off the neighbours among its words, even
where one of the words is not known. A clause ends with white space or a mark, never within a word
(`first_of_clauseEnd`), and a name that is one word of letters is taken as its match key (`takeName_word`). -/
namespace Catalogue.Question

open Text Pattern

/-! ### Neighbours -/

/-- Two words that stand side by side, with all that follow them. -/
def neighbours {α : Type} : List α → List (α × α × List α)
  | v :: w :: rest => (v, w, rest) :: neighbours (w :: rest)
  | _ => []

theorem mem_neighbours {α : Type} (before : List α) (v w : α) (after : List α) :
    (v, w, after) ∈ neighbours (before ++ v :: w :: after) := by
  induction before with
  | nil => exact List.mem_cons_self ..
  | cons u before ih =>
    cases before with
    | nil => exact List.mem_cons_of_mem _ ih
    | cons u' before => exact List.mem_cons_of_mem _ ih

theorem mem_of_neighbours {α : Type} {ws : List α} {v w : α} {after : List α} (h : (v, w, after) ∈ neighbours ws) :
    v ∈ ws ∧ w ∈ ws := by
  fun_induction neighbours ws with
  | case1 v' w' rest ih =>
    rcases List.mem_cons.mp h with heq | h
    · cases heq
      simp
    · obtain ⟨hv, hw⟩ := ih h
      exact ⟨List.mem_cons_of_mem _ hv, List.mem_cons_of_mem _ hw⟩
  | case2 => cases h

variable {ws : List (List Char)} {l v w s t x y r : List Char} {cs : Captures} {p q q' : Pattern}

/-- A word and the first word after it are neighbours among the words of a text. -/
theorem Stands.neighbours (h : Stands l v (s ++ y)) (hs : IsGap s) (hy : words y = w :: ws) :
    (v, w, ws) ∈ neighbours (words (l ++ (v ++ (s ++ y)))) := by
  rw [h.words_eq, words_space_append hs.space, hy]
  exact mem_neighbours ..

/-- After a word of joined words, and the white space there, come the words that are left, joined. -/
theorem rest_of_stands (hws : ∀ w ∈ ws, IsWord w) (h : joinWords ws = l ++ (w ++ (s ++ y)))
    (hstands : Stands l w (s ++ y)) (hs : IsGap s) (hy : words y ≠ []) : y = joinWords (words y) := by
  have hwords : words (w ++ (s ++ y)) = w :: words y := by
    rw [words_append w hstands.right, hstands.word.words_eq, words_space_append hs.space]
    rfl
  have hfirst : ∀ c ∈ (w ++ (s ++ y)).head?, isSpace c = false := by
    intro c hc
    rw [List.head?_append_of_ne_nil _ hstands.word.nonempty] at hc
    exact hstands.word.solid c (List.mem_of_mem_head? hc)
  have hjoined := eq_joinWords_of_suffix hws h hstands.left (by simp [hstands.word.nonempty]) hfirst
  rw [hwords, joinWords_cons hy, List.append_cancel_left_eq] at hjoined
  -- One space is all the white space there is.
  obtain ⟨c, s, rfl⟩ := List.exists_cons_of_ne_nil hs.nonempty
  obtain ⟨-, hrest⟩ := List.cons.inj hjoined
  cases s with
  | nil => exact hrest
  | cons d s =>
    have hbare : Bare (joinWords (words y)) := bare_joinWords fun _ => isWord_of_mem_words
    have hsolid := hbare.first d (by rw [← hrest]; rfl)
    rw [hs.space d (by simp)] at hsolid
    cases hsolid

/-- Two parts of a pattern that match words match neighbours. -/
theorem first_neighbours (hworded : Worded (l ++ (x ++ r))) (hq : MatchesWords q) (hq' : MatchesWords q')
    (h : (seq wordEdge (seq q (seq spaces (seq q' (seq spaces p))))).Fits l x r cs) :
    ∃ v w l' y as bs ds, cs = ds ++ (bs ++ as) ∧ (∃ l' r', q.Fits l' v r' as) ∧ (∃ l' r', q'.Fits l' w r' bs) ∧
      (v, w, words (y ++ r)) ∈ neighbours (words (l ++ (x ++ r))) ∧ l ++ (x ++ r) = l' ++ (y ++ r) ∧
      (∀ c ∈ l'.getLast?, isSpace c = true) ∧ p.Fits l' y r ds := by
  obtain ⟨v, s, _, as, _, rfl, rfl, hv, hvstands, hs, h⟩ := stands_first hworded hq h
  obtain ⟨w, t, y, bs, ds, rfl, rfl, hw, hwstands, ht, h⟩ := stands_before_gap hq' (hs.left _) h
  have hnext : words (w ++ (t ++ y) ++ r) = w :: words (y ++ r) := by
    rw [List.append_assoc, List.append_assoc, words_append w hwstands.right, hwstands.word.words_eq,
      words_space_append ht.space]
    rfl
  have hmem := hvstands.neighbours hs hnext
  refine ⟨v, w, l ++ v ++ s ++ w ++ t, y, as, bs, ds, by simp, ⟨_, _, hv⟩, ⟨_, _, hw⟩, ?_, by simp, ht.left _, h⟩
  simpa using hmem

/-- A part that matches words, white space, and a last part that does. -/
theorem last_neighbours (hworded : Worded (l ++ (x ++ r))) (hq : MatchesWords q) (hq' : MatchesWords q')
    (h : (seq wordEdge (seq q (seq spaces (seq q' wordEdge)))).Fits l x r cs) :
    ∃ v w as bs, cs = bs ++ as ∧ (∃ l' r', q.Fits l' v r' as) ∧ (∃ l' r', q'.Fits l' w r' bs) ∧
      (v, w, words r) ∈ neighbours (words (l ++ (x ++ r))) := by
  obtain ⟨v, s, y, as, bs, rfl, rfl, hv, hvstands, hs, h⟩ := stands_first hworded hq h
  obtain ⟨hw, hwstands⟩ := stands_last (by simpa using hworded) hq' (hs.left _) h
  have hnext : words (y ++ r) = y :: words r := by
    rw [words_append y hwstands.right, hwstands.word.words_eq]
    rfl
  have hmem := hvstands.neighbours hs hnext
  exact ⟨v, y, as, bs, rfl, ⟨_, _, hv⟩, ⟨_, _, hw⟩, by simpa using hmem⟩

/-! ### Capitals -/

/-- The words in and at in lower case. -/
def plainIn : Pattern := oneOf [chain [one (· == 'i'), one (· == 'n')], chain [one (· == 'a'), one (· == 't')]]

theorem fits_plainIn : plainIn.Fits l x r cs ↔ (x = "in".toList ∨ x = "at".toList) ∧ cs = [] := by
  have hpair (c d : Char) {l x r : List Char} {cs : Captures} :
      (chain [one (· == c), one (· == d)]).Fits l x r cs ↔ x = [c, d] ∧ cs = [] := by
    constructor
    · intro ⟨_, _, _, _, hx, hcs, ⟨⟨c', hc, hceq⟩, has⟩, ⟨⟨d', hd, hdeq⟩, hbs⟩⟩
      rw [hx, hcs, hc, hd, has, hbs, beq_iff_eq.mp hceq, beq_iff_eq.mp hdeq]
      exact ⟨rfl, rfl⟩
    · intro ⟨hx, hcs⟩
      rw [hx, hcs]
      exact ⟨[c], [d], [], [], rfl, rfl, ⟨⟨c, rfl, beq_self_eq_true c⟩, rfl⟩, ⟨⟨d, rfl, beq_self_eq_true d⟩, rfl⟩⟩
  rw [plainIn, fits_oneOf]
  simp only [List.mem_cons, List.not_mem_nil, or_false, exists_eq_or_imp, exists_eq_left, hpair, ← or_and_right]
  rfl

theorem matchesWords_plainIn : MatchesWords plainIn := by
  intro l x r cs hfits
  rcases (fits_plainIn.mp hfits).1 with rfl | rfl
  · decide
  · decide

theorem isSpace_of_capital {c : Char} (hc : isCapital c = true) : isSpace c = false :=
  isSpace_of_letter (letter_of_capital hc)

/-- Words with capital letters begin with one. -/
theorem first_of_capitals (hfits : (seq capitalWord p).Fits l x r cs) : ∃ c y, x = c :: y ∧ isCapital c = true := by
  obtain ⟨_, _, _, _, rfl, rfl, ⟨_, y, _, _, rfl, rfl, ⟨⟨c, rfl, hc⟩, rfl⟩, -⟩, -⟩ := hfits
  exact ⟨c, _, rfl, hc⟩

/-! ### Edges -/

theorem edge_first {c : Char} (hl : l.getLast? = some ' ') (hr : r.head? = some c)
    (hc : wordCharacters.holds c = true) : Edge l r := by
  rw [Edge, hl, hr, Option.any_some, Option.any_some, hc, wordCharacter_space]
  decide

theorem edge_last {c : Char} (hl : l.getLast? = some c) (hc : wordCharacters.holds c = true)
    (hr : ∀ d ∈ r.head?, d = ' ') : Edge l r := by
  rw [Edge, hl, Option.any_some, hc]
  cases r with
  | nil => decide
  | cons d r =>
    obtain rfl := hr d rfl
    rw [List.head?_cons, Option.any_some, wordCharacter_space]
    decide

/-! ### Names and numerals -/

/-- A clause ends at the end of the text, or with white space or a mark. -/
theorem first_of_clauseEnd (h : clauseEnd.Fits l x r cs) : ∀ c ∈ (x ++ r).head?, marks.holds c = true := by
  have hspaced {q : Pattern} {l x r : List Char} {cs : Captures} (h : (seq spaces q).Fits l x r cs) :
      ∀ c ∈ (x ++ r).head?, marks.holds c = true := by
    intro c hc
    obtain ⟨s, z, _, _, rfl, -, hs, -⟩ := h
    have hgap := (fits_spaces.mp hs).1
    rw [List.append_assoc] at hc
    exact marks_of_isSpace (hgap.right _ c hc)
  rw [clauseEnd, fits_oneOf] at h
  obtain ⟨p, hp, h⟩ := h
  simp only [List.mem_cons, List.not_mem_nil, or_false] at hp
  rcases hp with rfl | rfl | rfl | rfl
  · exact hspaced h
  · exact hspaced h
  · obtain ⟨⟨c, rfl, hc⟩, -⟩ := h
    intro d hd
    obtain rfl : c = d := Option.some.inj hd
    have hmarks : [',', ';', '.', '?', '!'].all marks.holds = true := by decide
    exact List.all_eq_true.mp hmarks c (by simpa using hc)
  · obtain ⟨rfl, rfl, -⟩ := h
    exact nofun

/-- The match key of a word, if what it keeps is a word. -/
theorem matchKey_word (hkept : IsWord (kept w)) : matchKey (String.ofList w) = String.ofList (kept w) := by
  have hjoined := matchKeyChars_joinWords (List.forall_mem_singleton.mpr hkept)
  rw [joinWords_single, List.map_singleton, joinWords_single] at hjoined
  rw [matchKey, String.toList_ofList, hjoined]

/-- What is taken from a word is its match key. -/
theorem takeName_kept {m : Place} (hw : IsWord w) (hkept : IsWord (kept w)) (hm : m.captured? 1 = some w) :
    takeName m = some (String.ofList (kept w)) := by
  have hgroup : group 1 m = some (String.ofList w) := by
    rw [group, hm, Option.map_some, trim_word hw]
  -- An article has a space after it, and the key has none.
  have harticle : ['t', 'h', 'e', ' '].isPrefixOf (kept w) = false := by
    refine Bool.eq_false_iff.mpr fun hprefix => ?_
    have hspace := hkept.solid ' ' ((List.isPrefixOf_iff_prefix.mp hprefix).subset (by decide))
    cases hspace
  have hempty : (String.ofList (kept w)).isEmpty = false := by
    rw [Bool.eq_false_iff, Ne, String.isEmpty_iff]
    intro hnil
    exact hkept.nonempty (by simpa using congrArg String.toList hnil)
  simp only [takeName, hgroup, matchKey_word hkept, Option.bind_eq_bind, Option.bind_some, String.toList_ofList,
    harticle, trim_word hkept, hempty, Bool.false_eq_true, if_false]

/-- What is taken from a word of letters is its match key. -/
theorem takeName_word (hletters : ∀ c ∈ w, letters.holds c = true) (hne : w ≠ []) :
    takeName (.between l r [(1, w)]) = some (matchKey (String.ofList w)) := by
  have hkept : IsWord (kept w) := isWord_kept hletters hne
  rw [takeName_kept (isWord_of_letters hletters hne) hkept rfl, matchKey_word hkept]

/-- A word of letters after which a clause ends is captured whole. -/
theorem head_freeName {m : Place} (hletters : ∀ c ∈ w, letters.holds c = true) (hne : w ≠ [])
    (hend : clauseEnd.Fits (l ++ w) x r []) (hm : (freeName.outcomes (.between l (w ++ (x ++ r)) [])).head? = some m) :
    ∃ l' r', m = .between l' r' [(1, w)] := by
  obtain ⟨u, z, hsplit, -, -, hfound, hshortest⟩ := head_capture_lazy hm
  obtain ⟨x', r', cs, rfl, hfits, rfl⟩ := (mem_outcomes _).mp (List.mem_of_mem_head? hfound)
  obtain rfl := hfits.captures_eq_nil rfl
  have hu : u = w := by
    rcases List.append_eq_append_iff.mp hsplit with ⟨a, hu, -⟩ | ⟨a, hw, hz⟩
    · cases a with
      | nil => simpa using hu
      | cons c a =>
        have hshort : w.length < u.length := by simp [hu]
        exact absurd hend (hshortest w (x ++ r) rfl hne hshort x r [] rfl)
    · cases a with
      | nil => simpa using hw.symm
      | cons c a =>
        have hmark := first_of_clauseEnd hfits c (by rw [hz]; rfl)
        rw [(marks_of_letter (hletters c (by simp [hw]))).1] at hmark
        cases hmark
  rw [hu]
  exact ⟨_, _, rfl⟩

/-- A clause ends before between. -/
theorem clauseEnd_between (l z : List Char) : clauseEnd.Fits l " between".toList (' ' :: z) [] := by
  have hgap : spaces.Fits l " ".toList ("between".toList ++ ' ' :: z) [] :=
    fits_spaces.mpr ⟨isGap_space, rfl⟩
  have hword : (oneOf (clauseWords.map word)).Fits (l ++ " ".toList) "between".toList ([] ++ ' ' :: z) [] :=
    (fits_words _).mpr ⟨⟨"between", by decide, by decide⟩, rfl⟩
  have hlast : (l ++ " ".toList ++ "between".toList).getLast? = some 'n' := by
    rw [List.getLast?_append_of_ne_nil _ (by decide)]
    decide
  have hedge : Edge (l ++ " ".toList ++ "between".toList) (' ' :: z) :=
    edge_last hlast (by decide +kernel) (by rintro d ⟨⟩; rfl)
  have hlater : (seq (oneOf (clauseWords.map word)) wordEdge).Fits (l ++ " ".toList) "between".toList (' ' :: z) [] :=
    ⟨"between".toList, [], [], [], rfl, rfl, hword, rfl, hedge, rfl⟩
  exact fits_oneOf.mpr ⟨_, List.mem_cons_self .., " ".toList, "between".toList, [], [], rfl, rfl, hgap, hlater⟩

/-- A year as it is written: three or four digits. -/
structure IsNumeral (w : List Char) : Prop where
  length : w.length = 3 ∨ w.length = 4
  digits : ∀ c ∈ w, '0' ≤ c ∧ c ≤ '9'

namespace IsNumeral

variable (hw : IsNumeral w)
include hw

theorem nonempty : w ≠ [] := by
  intro hnil
  have hlength := hw.length
  rw [hnil] at hlength
  exact absurd hlength (by decide)

theorem decimal : ∀ c ∈ w, decimalDigits.holds c = true := fun c hc => digit_of_plain (hw.digits c hc)

theorem isWord : IsWord w :=
  ⟨hw.nonempty, fun c hc => isSpace_of_wordCharacter (wordCharacter_of_digit (hw.decimal c hc))⟩

/-- No word that begins otherwise than with a digit can be read in a numeral. -/
theorem not_reads {u : String} (hu : (u.toList.head?.any fun d => '0' ≤ d && d ≤ '9') = false) : ¬Reads u w := by
  intro hreads
  obtain ⟨c, w, rfl⟩ := List.exists_cons_of_ne_nil hw.nonempty
  have hdigit := hw.digits c (List.mem_cons_self ..)
  unfold Reads at hreads
  obtain ⟨d, ds, hd, -, heq⟩ := List.forall₂_cons_right_iff.mp hreads
  have hother : ¬('0' ≤ d ∧ d ≤ '9') := by simpa [heq] using hu
  refine hother ?_
  have hlow : 48 ≤ c.toNat := hdigit.1
  have hhigh : c.toNat ≤ 57 := hdigit.2
  have hsame : c.toLower = c := toLower_of_not_upper (by omega)
  simp only [foldsTo, Bool.or_eq_true, Bool.and_eq_true, beq_iff_eq, hsame] at hd
  rcases hd with (rfl | ⟨-, rfl⟩) | ⟨-, rfl⟩
  · exact hdigit
  · exact absurd hhigh (by decide)
  · exact absurd hhigh (by decide)

theorem fits_yearGroup {n : Nat} : (yearGroup n).Fits l w r [(n, w)] := by
  have hlength := hw.length
  exact ⟨[], rfl, fits_times.mpr ⟨⟨by omega, by omega⟩, hw.decimal, rfl⟩⟩

/-- A numeral is read as its value. -/
theorem parse : Number.parseInt32? (String.ofList w) = some (Number.digitsValue w : Int) := by
  refine Number.parseInteger?_digits hw.nonempty hw.digits ?_
  have hvalue : Number.digitsValue w < 10 ^ w.length := Number.digitsValue_lt fun c hc => (hw.digits c hc).2
  have hpower : 10 ^ w.length ≤ 10 ^ 4 := by
    have hlength := hw.length
    exact Nat.pow_le_pow_right (by decide) (by omega)
  have hrange : (-2147483648 : Int) ≤ Number.digitsValue w ∧ (Number.digitsValue w : Int) ≤ 2147483647 := by omega
  exact (Bool.and_eq_true ..).mpr ⟨decide_eq_true hrange.1, decide_eq_true hrange.2⟩

end IsNumeral

theorem matchesWords_yearGroup {n : Nat} : MatchesWords (yearGroup n) := by
  intro l x r _ ⟨_, _, h⟩
  obtain ⟨⟨hlow, -⟩, hdigits, -⟩ := fits_times.mp h
  refine ⟨?_, fun c hc => isSpace_of_wordCharacter (wordCharacter_of_digit (hdigits c hc))⟩
  rintro rfl
  exact absurd hlow (by decide)

/-- Two years with between and and, after white space and at the end of the text. -/
theorem fits_between {u a b : List Char} (hl : l.getLast? = some ' ') (hu : Reads "between" u)
    (hfirst : ∀ c ∈ u.head?, wordCharacters.holds c = true) (ha : IsNumeral a) (hv : Reads "and" v)
    (hb : IsNumeral b) : (chain [wordEdge, phrase [word "between", yearGroup 1, word "and", yearGroup 2],
      wordEdge]).Fits l (u ++ ' ' :: (a ++ ' ' :: (v ++ ' ' :: b))) [] [(2, b), (1, a)] := by
  have hphrase : (phrase [word "between", yearGroup 1, word "and", yearGroup 2]).Fits l
      (u ++ ' ' :: (a ++ ' ' :: (v ++ ' ' :: b))) [] [(2, b), (1, a)] :=
    fits_spaced (fits_word.mpr ⟨hu, rfl⟩)
      (fits_spaced ha.fits_yearGroup (fits_spaced (fits_word.mpr ⟨hv, rfl⟩) hb.fits_yearGroup))
  have hedge : Edge l (u ++ ' ' :: (a ++ ' ' :: (v ++ ' ' :: b))) := by
    cases u with
    | nil => cases hu
    | cons c u => exact edge_first hl rfl (hfirst c rfl)
  have hend : Edge (l ++ (u ++ ' ' :: (a ++ ' ' :: (v ++ ' ' :: b)))) [] := by
    obtain ⟨b, d, rfl⟩ := List.eq_nil_or_concat b |>.resolve_left hb.nonempty
    refine edge_last (c := d) ?_ (wordCharacter_of_digit (hb.decimal d (by simp))) nofun
    simp [List.getLast?_append, List.getLast?_cons]
  exact ⟨[], _, [], [(2, b), (1, a)], rfl, rfl, ⟨rfl, by simpa using hedge, rfl⟩,
    _, [], [(2, b), (1, a)], [], (List.append_nil _).symm, rfl, by simpa using hphrase, rfl, by simpa using hend, rfl⟩

end Catalogue.Question
