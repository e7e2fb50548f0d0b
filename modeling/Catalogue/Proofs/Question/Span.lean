import Catalogue.Proofs.Question.Findings
import Catalogue.Proofs.Question.Neighbours

/-! Questions for the books of a publisher from a span of years: All books published by Aldus between 1495 and 1515.
The name is any one word of letters but the word language, also a word that some phrase looks for. The phrase for
the publisher captures the name and no more (`head_publishedBy`); the phrase for the years captures both, in the order
in which they stand (`captures_of_between`); and no other phrase finds anything, because it would need neighbours
that the words of the question do not have. So the plan is known for every such question
(`compile_spanQuestion`). -/
namespace Catalogue.Question

open Text Pattern

/-! ### The question -/

/-- Asks for the books of a publisher from one year to another. -/
def spanQuestion (name first last : String) : String :=
  "All books published by " ++ name ++ " between " ++ first ++ " and " ++ last

/-- The words of the question, except for the name and the years. -/
def fixedWords : List (List Char) :=
  ["All".toList, "books".toList, "published".toList, "by".toList, "between".toList, "and".toList]

/-- The words of the question after the name. -/
def wordsAfter (first last : List Char) : List (List Char) := ["between".toList, first, "and".toList, last]

/-- The words of the question. -/
def spanWords (name first last : List Char) : List (List Char) :=
  "All".toList :: "books".toList :: "published".toList :: "by".toList :: name :: wordsAfter first last

/-- A name of letters that does not say that a language is meant, and two years. -/
structure Spanned (name first last : List Char) : Prop where
  named : name ≠ []
  spelled : ∀ c ∈ name, letters.holds c = true
  other : lowercase (String.ofList name) ≠ "language"
  first : IsNumeral first
  last : IsNumeral last

theorem Spanned.exchange {name first last : List Char} (h : Spanned name first last) : Spanned name last first :=
  ⟨h.named, h.spelled, h.other, h.last, h.first⟩

variable {name first last : List Char}

theorem joinWords_spanWords : joinWords (spanWords name first last) =
    "All books ".toList ++ ("published by ".toList ++ (name ++ (" between ".toList ++ (first ++
      (" and ".toList ++ last))))) := by
  simp only [spanWords, wordsAfter, joinWords, List.intercalate_cons_cons, List.intercalate_singleton,
    List.append_assoc]
  rfl

theorem toList_spanQuestion (name first last : String) :
    (spanQuestion name first last).toList = joinWords (spanWords name.toList first.toList last.toList) := by
  have hparts (a b c d e f : String) : (a ++ b ++ c ++ d ++ e ++ f).toList =
      a.toList ++ (b.toList ++ (c.toList ++ (d.toList ++ (e.toList ++ f.toList)))) := by
    simp only [String.toList_append, List.append_assoc]
  exact (hparts ..).trans joinWords_spanWords.symm

/-- The neighbours among the words of the question. -/
theorem neighbour_cases {v w : List Char} {after : List (List Char)}
    (h : (v, w, after) ∈ neighbours (spanWords name first last)) :
    v = "All".toList ∧ w = "books".toList ∨ v = "books".toList ∧ w = "published".toList ∨
      (v = "published".toList ∧ w = "by".toList ∧ after = name :: wordsAfter first last) ∨
      v = "by".toList ∧ w = name ∨ (v = name ∧ w = "between".toList ∧ after = [first, "and".toList, last]) ∨
      (v = "between".toList ∧ w = first ∧ after = ["and".toList, last]) ∨
      v = first ∧ w = "and".toList ∨ v = "and".toList ∧ w = last := by
  simp only [spanWords, wordsAfter, neighbours, List.mem_cons, Prod.mk.injEq, List.not_mem_nil, or_false] at h
  rcases h with h | h | h | h | h | h | h | h
  · exact .inl ⟨h.1, h.2.1⟩
  · exact .inr (.inl ⟨h.1, h.2.1⟩)
  · exact .inr (.inr (.inl h))
  · exact .inr (.inr (.inr (.inl ⟨h.1, h.2.1⟩)))
  · exact .inr (.inr (.inr (.inr (.inl h))))
  · exact .inr (.inr (.inr (.inr (.inr (.inl h)))))
  · exact .inr (.inr (.inr (.inr (.inr (.inr (.inl ⟨h.1, h.2.1⟩))))))
  · exact .inr (.inr (.inr (.inr (.inr (.inr (.inr ⟨h.1, h.2.1⟩))))))

/-- No word of the question that says what was done with the books has in or at after it. -/
theorem not_done_in {v w : List Char} {after : List (List Char)}
    (hmem : (v, w, after) ∈ neighbours (spanWords name first last))
    (hv : ∃ u ∈ ["printed", "published", "issued", "produced", "written", "composed"], Reads u v) :
    ¬Reads "in" w ∧ ¬Reads "at" w := by
  rcases neighbour_cases hmem with ⟨rfl, -⟩ | ⟨rfl, -⟩ | ⟨-, rfl, -⟩ | ⟨rfl, -⟩ | ⟨-, rfl, -⟩ | ⟨rfl, -⟩ | ⟨-, rfl⟩ |
    ⟨rfl, -⟩
  · exact absurd hv (by decide)
  · exact absurd hv (by decide)
  · decide
  · exact absurd hv (by decide)
  · decide
  · exact absurd hv (by decide)
  · decide
  · exact absurd hv (by decide)

/-- The other words of the question are words of letters and no languages. -/
theorem fixedWords_plain : ∀ w ∈ fixedWords,
    w.all letters.holds = true ∧ languageCode? (trim (String.ofList w)) = none := by
  decide +kernel

theorem letters_of_fixed {w : List Char} (hw : w ∈ fixedWords) : ∀ c ∈ w, letters.holds c = true :=
  List.all_eq_true.mp (fixedWords_plain w hw).1

/-- The words before words of trade are no languages, nor is the one after in. -/
theorem takeKnownLanguage_fixed {l r w : List Char} (hw : w ∈ fixedWords) :
    takeKnownLanguage (.between l r [(1, w)]) = none := by
  rw [takeKnownLanguage, group_between, Option.bind_some, (fixedWords_plain w hw).2]

theorem forall_spanWords {P : List Char → Prop} (hfixed : ∀ w ∈ fixedWords, P w) (hname : P name) (hfirst : P first)
    (hlast : P last) : ∀ w ∈ spanWords name first last, P w := by
  simp only [fixedWords, List.forall_mem_cons] at hfixed
  obtain ⟨hall, hbooks, hpublished, hby, hbetween, hand, -⟩ := hfixed
  simp only [spanWords, wordsAfter, List.forall_mem_cons]
  exact ⟨hall, hbooks, hpublished, hby, hname, hbetween, hfirst, hand, hlast, List.forall_mem_nil _⟩

namespace Spanned

variable (h : Spanned name first last)
include h

theorem isWord : ∀ w ∈ spanWords name first last, IsWord w :=
  forall_spanWords (by decide) (isWord_of_letters h.spelled h.named) h.first.isWord h.last.isWord

theorem words_question : words (joinWords (spanWords name first last)) = spanWords name first last :=
  words_joinWords h.isWord

theorem worded : Worded (joinWords (spanWords name first last)) := by
  intro c hc
  rcases mem_joinWords hc with hspace | ⟨w, hw, hc⟩
  · exact .inr hspace
  · exact .inl (forall_spanWords (fun w hw c hc => wordCharacter_of_letter (letters_of_fixed hw c hc))
      (fun c hc => wordCharacter_of_letter (h.spelled c hc))
      (fun c hc => wordCharacter_of_digit (h.first.decimal c hc))
      (fun c hc => wordCharacter_of_digit (h.last.decimal c hc)) w hw c hc)

/-! ### The publisher -/

/-- The phrase for the publisher captures the name. -/
theorem head_publishedBy {l ahead : List Char} {m : Place} (htext : joinWords (spanWords name first last) = l ++ ahead)
    (hm : ((seq wordEdge (seq (word "published") (seq spaces (seq (word "by") (seq spaces freeName))))).outcomes
      (.between l ahead [])).head? = some m) : ∃ l' r', m = .between l' r' [(1, name)] := by
  obtain ⟨_, hat, hm⟩ := exists_head_of_seq hm
  obtain ⟨_, _, _, rfl, ⟨rfl, hedge, rfl⟩, rfl⟩ := (mem_outcomes _).mp hat
  obtain ⟨_, hpublished, hm⟩ := exists_head_of_seq hm
  obtain ⟨v, _, _, rfl, hv, rfl⟩ := (mem_outcomes _).mp hpublished
  obtain ⟨_, hspaces, hm⟩ := exists_head_of_seq hm
  obtain ⟨s, _, _, rfl, hs, rfl⟩ := (mem_outcomes _).mp hspaces
  obtain ⟨_, hby, hm⟩ := exists_head_of_seq hm
  obtain ⟨w, _, _, rfl, hw, rfl⟩ := (mem_outcomes _).mp hby
  obtain ⟨_, hspaces, hm⟩ := exists_head_of_seq hm
  obtain ⟨t, y, _, rfl, ht, rfl⟩ := (mem_outcomes _).mp hspaces
  obtain ⟨hvreads, rfl⟩ := fits_word.mp hv
  obtain ⟨hwreads, rfl⟩ := fits_word.mp hw
  obtain ⟨hsgap, rfl⟩ := fits_spaces.mp hs
  obtain ⟨htgap, rfl⟩ := fits_spaces.mp ht
  have hvword : IsWord v := isWord_of_reads (by decide) hvreads
  have hwword : IsWord w := isWord_of_reads (by decide) hwreads
  rw [List.nil_append] at htext
  have hleft := left_of_edge (htext ▸ h.worded) hvword hedge
  have hvstands : Stands l v (s ++ (w ++ (t ++ y))) := ⟨hvword, hleft, hsgap.right _⟩
  have hwstands : Stands (l ++ v ++ s) w (t ++ y) := ⟨hwword, hsgap.left _, htgap.right _⟩
  -- Only the third word and the fourth read so, and what follows them is known.
  have hnext : words (w ++ (t ++ y)) = w :: words y := by
    rw [words_append w hwstands.right, hwword.words_eq, words_space_append htgap.space]
    rfl
  have hmem := hvstands.neighbours hsgap hnext
  rw [← htext, h.words_question] at hmem
  have hafter : words y = name :: wordsAfter first last := by
    rcases neighbour_cases hmem with ⟨rfl, -⟩ | ⟨rfl, -⟩ | ⟨-, -, hafter⟩ | ⟨rfl, -⟩ | ⟨-, rfl, -⟩ | ⟨rfl, -⟩ |
      ⟨-, rfl⟩ | ⟨rfl, -⟩
    · exact absurd hvreads (by decide)
    · exact absurd hvreads (by decide)
    · exact hafter
    · exact absurd hvreads (by decide)
    · exact absurd hwreads (by decide)
    · exact absurd hvreads (by decide)
    · exact absurd hwreads (by decide)
    · exact absurd hvreads (by decide)
  have hrest : y = joinWords (name :: wordsAfter first last) := by
    rw [← hafter]
    refine rest_of_stands h.isWord ?_ hwstands htgap ?_
    · simpa using htext
    · rw [hafter]
      exact List.cons_ne_nil _ _
  have hname : y = name ++ (" between".toList ++ ' ' :: joinWords [first, "and".toList, last]) := by
    rw [hrest]
    simp only [wordsAfter, joinWords, List.intercalate_cons_cons, List.intercalate_singleton, List.append_assoc]
    rfl
  rw [hname] at hm
  exact head_freeName h.spelled h.named (clauseEnd_between _ _) hm

theorem fits_publishedBy : (chain [wordEdge, phrase [word "published", word "by", freeName]]).Fits "All books ".toList
    ("published by ".toList ++ (name ++ " between".toList)) (' ' :: joinWords [first, "and".toList, last])
    [(1, name)] := by
  obtain ⟨c, rest, hcons⟩ := List.exists_cons_of_ne_nil h.named
  have hline : ∀ d ∈ name, (d != '\n') = true := by
    intro d hd
    rw [bne_iff_ne]
    rintro rfl
    cases isSpace_of_letter (h.spelled '\n' hd)
  have hcapture : (capture 1 (plusLazy anything)).Fits "All books published by ".toList name
      (" between".toList ++ ' ' :: joinWords [first, "and".toList, last]) [(1, name)] := by
    refine ⟨[], rfl, fits_one_then.mpr ⟨c, rest, hcons, ?_, fun d hd => ?_, rfl⟩⟩
    · exact hline c (by simp [hcons])
    · exact hline d (by simp [hcons, hd])
  have hname : freeName.Fits "All books published by ".toList (name ++ " between".toList)
      (' ' :: joinWords [first, "and".toList, last]) [(1, name)] :=
    ⟨name, " between".toList, [(1, name)], [], rfl, rfl, hcapture, clauseEnd_between _ _⟩
  have hfixed : "published".toList ∈ fixedWords := by decide
  have hedge : Edge "All books ".toList
      ("published by ".toList ++ (name ++ " between".toList) ++ ' ' :: joinWords [first, "and".toList, last]) :=
    edge_first (by decide) rfl (wordCharacter_of_letter (letters_of_fixed hfixed 'p' (by decide)))
  have hby : (word "by").Fits "All books published ".toList "by".toList
      (' ' :: (name ++ " between".toList) ++ ' ' :: joinWords [first, "and".toList, last]) [] :=
    fits_word.mpr ⟨by decide, rfl⟩
  have hpublished : (word "published").Fits "All books ".toList "published".toList
      (' ' :: ("by ".toList ++ (name ++ " between".toList)) ++ ' ' :: joinWords [first, "and".toList, last]) [] :=
    fits_word.mpr ⟨by decide, rfl⟩
  exact ⟨[], _, [], _, rfl, rfl, ⟨rfl, hedge, rfl⟩, fits_spaced hpublished (fits_spaced hby hname)⟩

/-- The publisher that the question names. -/
theorem firstPhrase_publisher : firstPhrase publisherPhrases (joinWords (spanWords name first last)) =
    some ("published_by", matchKey (String.ofList name)) := by
  refine firstPhrase_of_find (find_eq_some (fun m hm => ?_) ?_ h.fits_publishedBy)
  · obtain ⟨l, ahead, htext, hhead⟩ := mem_allMatches hm
    obtain ⟨l', r', rfl⟩ := h.head_publishedBy htext hhead
    exact takeName_word h.spelled h.named
  · rw [joinWords_spanWords]
    simp only [joinWords, List.intercalate_cons_cons, List.intercalate_singleton, List.append_assoc]
    rfl

/-! ### The years -/

/-- The phrase for the years captures them both. -/
theorem captures_of_between {l x r : List Char} {cs : Captures}
    (htext : joinWords (spanWords name first last) = l ++ (x ++ r))
    (hfits : (chain [wordEdge, phrase [word "between", yearGroup 1, word "and", yearGroup 2], wordEdge]).Fits l x r
      cs) : cs = [(2, last), (1, first)] := by
  obtain ⟨_, _, _, _, rfl, rfl, hedge, x, _, cs, _, rfl, rfl, hphrase, rfl, hend, rfl⟩ := hfits
  have hopening : (seq wordEdge (phrase [word "between", yearGroup 1, word "and", yearGroup 2])).Fits l x r cs := by
    obtain ⟨rfl, hedge, rfl⟩ := hedge
    refine ⟨[], x, [], cs, rfl, (List.append_nil cs).symm, ⟨rfl, ?_, rfl⟩, ?_⟩
    · simpa using hedge
    · simpa using hphrase
  obtain ⟨rfl, -, rfl⟩ := hedge
  simp only [List.nil_append, List.append_nil] at htext hend ⊢
  obtain ⟨v, w, l', y, as, bs, ds, rfl, ⟨_, _, hv⟩, ⟨_, _, hw⟩, hmem, hsame, hleft, hrest⟩ :=
    first_neighbours (htext ▸ h.worded) (matchesWords_word (by decide)) matchesWords_yearGroup hopening
  obtain ⟨hvreads, rfl⟩ := fits_word.mp hv
  obtain ⟨_, rfl, hw⟩ := hw
  obtain ⟨-, hdigits, rfl⟩ := fits_times.mp hw
  obtain ⟨u, s, z, _, ds, rfl, rfl, hu, hustands, hs, hz⟩ :=
    stands_before_gap (matchesWords_word (by decide)) hleft hrest
  obtain ⟨hureads, rfl⟩ := fits_word.mp hu
  -- The last part ends at the edge of a word too, so it is a whole word.
  have hwhole : (seq (yearGroup 2) wordEdge).Fits (l' ++ u ++ s) z r ds := by
    refine ⟨z, [], ds, [], (List.append_nil z).symm, rfl, hz, rfl, ?_, rfl⟩
    have hbefore : l ++ x = l' ++ (u ++ (s ++ z)) :=
      List.append_cancel_right (by simpa using hsame)
    rw [hbefore] at hend
    simpa using hend
  have hworded : Worded (l' ++ u ++ s ++ (z ++ r)) := by
    have hworded := h.worded
    rw [htext, hsame] at hworded
    simpa using hworded
  obtain ⟨-, hzstands⟩ := stands_last hworded matchesWords_yearGroup (hs.left _) hwhole
  obtain ⟨_, rfl, hlast⟩ := hz
  obtain ⟨-, -, rfl⟩ := fits_times.mp hlast
  have hafter : words (u ++ (s ++ z) ++ r) = u :: z :: words r := by
    rw [List.append_assoc, List.append_assoc, words_append u hustands.right, hustands.word.words_eq,
      words_space_append hs.space, words_append z hzstands.right, hzstands.word.words_eq]
    rfl
  rw [hafter, ← htext, h.words_question] at hmem
  have hletter {w : List Char} {c : Char} (hw : w ∈ fixedWords) (hc : c ∈ w)
      (hdigits : ∀ c ∈ w, decimalDigits.holds c = true) : False := by
    have hdigit := (marks_of_letter (letters_of_fixed hw c hc)).2
    rw [hdigits c hc] at hdigit
    cases hdigit
  rcases neighbour_cases hmem with ⟨rfl, -⟩ | ⟨rfl, -⟩ | ⟨rfl, -⟩ | ⟨rfl, -⟩ | ⟨-, rfl, -⟩ | ⟨-, rfl, hyears⟩ |
    ⟨-, rfl⟩ | ⟨rfl, -⟩
  · exact absurd hvreads (by decide)
  · exact absurd hvreads (by decide)
  · exact absurd hvreads (by decide)
  · exact absurd hvreads (by decide)
  · exact (hletter (w := "between".toList) (c := 'b') (by decide) (by decide) hdigits).elim
  · simp only [List.cons.injEq] at hyears
    obtain ⟨-, rfl, -⟩ := hyears
    rfl
  · exact (hletter (w := "and".toList) (c := 'a') (by decide) (by decide) hdigits).elim
  · exact absurd hvreads (by decide)

/-- The phrase for years with between and and. -/
def betweenAnd : Phrase (Int × Int) := yearPhrases.head (by decide)

/-- What is taken from a match that captured both years. -/
theorem takeYears_captured {l r : List Char} : takeYears (.between l r [(2, last), (1, first)]) =
    some ((Number.digitsValue first : Int), (Number.digitsValue last : Int)) := by
  have hfirst : group 1 (.between l r [(2, last), (1, first)]) = some (String.ofList first) :=
    congrArg some (trim_word h.first.isWord)
  have hlast : group 2 (.between l r [(2, last), (1, first)]) = some (String.ofList last) :=
    congrArg some (trim_word h.last.isWord)
  simp only [takeYears, hfirst, hlast, h.first.parse, h.last.parse, Option.bind_eq_bind, Option.bind_some,
    Option.pure_def]

/-- The years that the question names. -/
theorem firstPhrase_years : firstPhrase yearPhrases (joinWords (spanWords name first last)) =
    some ("between_and", (Number.digitsValue first : Int), (Number.digitsValue last : Int)) := by
  have htaken : ∀ m ∈ betweenAnd.pattern.allMatches (joinWords (spanWords name first last)),
      betweenAnd.take m = some ((Number.digitsValue first : Int), (Number.digitsValue last : Int)) := by
    intro m hm
    obtain ⟨l, x, r, cs, htext, hfits, rfl⟩ := fits_of_mem_allMatches hm
    obtain rfl := h.captures_of_between htext hfits
    exact h.takeYears_captured
  have hfirst (c : Char) (hc : c ∈ "between".toList.head?) : wordCharacters.holds c = true :=
    wordCharacter_of_letter (letters_of_fixed (w := "between".toList) (by decide) c (List.mem_of_mem_head? hc))
  have hspace : ("All books published by ".toList ++ (name ++ [' '])).getLast? = some ' ' := by
    rw [← List.append_assoc, List.getLast?_append_of_ne_nil _ (by decide)]
    rfl
  have hfits : betweenAnd.pattern.Fits ("All books published by ".toList ++ (name ++ [' ']))
      ("between".toList ++ ' ' :: (first ++ ' ' :: ("and".toList ++ ' ' :: last))) [] [(2, last), (1, first)] :=
    fits_between hspace (by decide) hfirst h.first (by decide) h.last
  have htext : joinWords (spanWords name first last) = ("All books published by ".toList ++ (name ++ [' '])) ++
      ("between".toList ++ ' ' :: (first ++ ' ' :: ("and".toList ++ ' ' :: last)) ++ []) := by
    simp only [spanWords, wordsAfter, joinWords, List.intercalate_cons_cons, List.intercalate_singleton,
      List.append_assoc, List.append_nil]
    rfl
  exact firstPhrase_of_find (find_eq_some htaken htext hfits)

/-! ### No place -/

/-- After a word in, which can only be the name, comes between. -/
theorem after_in {l w s y : List Char} (htext : joinWords (spanWords name first last) = l ++ (w ++ (s ++ y)))
    (hw : Reads "in" w ∨ Reads "at" w) (hstands : Stands l w (s ++ y)) (hs : IsGap s)
    (hy : ∃ c ∈ y, isSpace c = false) : y = joinWords (wordsAfter first last) := by
  obtain ⟨v, ws, hwords⟩ : ∃ v ws, words y = v :: ws := by
    obtain ⟨c, hc, hsolid⟩ := hy
    refine List.exists_cons_of_ne_nil fun hnil => ?_
    rw [space_of_words_nil hnil c hc] at hsolid
    cases hsolid
  have hjoined : y = joinWords (words y) := by
    refine rest_of_stands h.isWord htext hstands hs ?_
    rw [hwords]
    exact List.cons_ne_nil v ws
  have hmem := hstands.neighbours hs hwords
  rw [← htext, h.words_question] at hmem
  have hnumeral : ¬(Reads "in" first ∨ Reads "at" first) := fun hread =>
    hread.elim (h.first.not_reads (by decide)) (h.first.not_reads (by decide))
  rw [hjoined, hwords]
  rcases neighbour_cases hmem with ⟨rfl, -⟩ | ⟨rfl, -⟩ | ⟨rfl, -⟩ | ⟨rfl, -⟩ | ⟨-, rfl, rfl⟩ | ⟨rfl, -⟩ | ⟨rfl, -⟩ |
    ⟨rfl, -⟩
  · exact absurd hw (by decide)
  · exact absurd hw (by decide)
  · exact absurd hw (by decide)
  · exact absurd hw (by decide)
  · rfl
  · exact absurd hw (by decide)
  · exact absurd hw hnumeral
  · exact absurd hw (by decide)

/-- The question names no place. -/
theorem firstPhrase_place : firstPhrase placePhrases (joinWords (spanWords name first last)) = none := by
  refine firstPhrase_eq_none fun ph hph => find_eq_none fun l x r cs htext hfits => ?_
  simp only [placePhrases, List.mem_cons, List.not_mem_nil, or_false] at hph
  have hworded : Worded (l ++ (x ++ r)) := htext ▸ h.worded
  rcases hph with rfl | rfl
  · obtain ⟨v, w, _, _, _, _, _, -, ⟨_, _, hv⟩, ⟨_, _, hw⟩, hmem, -⟩ := first_neighbours hworded
      (matchesWords_words ["printed", "published", "issued", "produced"] (by decide))
      (matchesWords_words ["in", "at"] (by decide)) hfits
    rw [← htext, h.words_question] at hmem
    obtain ⟨⟨u, hu, hread⟩, -⟩ := (fits_words _).mp hv
    obtain ⟨hin, hat⟩ := not_done_in hmem ⟨u, List.mem_append_left ["written", "composed"] hu, hread⟩
    obtain ⟨⟨u, hu, hread⟩, -⟩ := (fits_words _).mp hw
    rcases List.mem_pair.mp hu with rfl | rfl
    · exact hin hread
    · exact hat hread
  · obtain ⟨w, s, y, _, _, rfl, -, hw, hstands, hs, ⟨_, -, hy⟩⟩ := stands_first hworded matchesWords_plainIn hfits
    obtain ⟨c, y, rfl, hc⟩ := first_of_capitals hy
    have hreads : Reads "in" w ∨ Reads "at" w := by
      rcases (fits_plainIn.mp hw).1 with rfl | rfl
      · exact .inl (by decide)
      · exact .inr (by decide)
    have hafter := h.after_in (by simpa using htext) hreads hstands hs ⟨c, by simp, isSpace_of_capital hc⟩
    obtain ⟨z, hz, -⟩ := joinWords_first "between".toList [first, "and".toList, last]
    rw [wordsAfter, hz] at hafter
    obtain rfl : c = 'b' := (List.cons.inj hafter).1
    exact absurd hc (by decide +kernel)

/-! ### No language -/

theorem not_reads_language : ∀ w ∈ spanWords name first last, ¬Reads "language" w := by
  refine forall_spanWords (by decide) (fun hreads => h.other ?_) (h.first.not_reads (by decide))
    (h.last.not_reads (by decide))
  have hlower : lowercaseAfter [] "language".toList = "language".toList := by decide +kernel
  exact lowercase_of_reads (by decide) (hlower ▸ lowerText_lowercaseAfter [] _) hreads

/-- What is captured after in is between. -/
theorem captured_in {l ahead : List Char} {m : Place} (htext : joinWords (spanWords name first last) = l ++ ahead)
    (hm : ((seq wordEdge (seq (word "in") (seq spaces languageGroup))).outcomes (.between l ahead [])).head? =
      some m) : ∃ l' r', m = .between l' r' [(1, "between".toList)] := by
  obtain ⟨w, s, c, rest, rfl, hedge, hreads, hgap, hc, rfl⟩ := head_after_in hm
  have hstands : Stands l w (s ++ c :: rest) := by
    have hword : IsWord w := isWord_of_reads (by decide) hreads
    exact ⟨hword, left_of_edge (htext ▸ h.worded) hword hedge, hgap.right _⟩
  have hafter := h.after_in htext (.inl hreads) hstands hgap ⟨c, List.mem_cons_self .., isSpace_of_letterAnyCase hc⟩
  obtain ⟨z, hz, hspace⟩ := joinWords_first "between".toList [first, "and".toList, last]
  rw [wordsAfter, hz] at hafter
  obtain ⟨rfl, hrest⟩ := List.cons.inj hafter
  have hrun : rest.takeWhile (fun c => isLetterAnyCase c || c == '-') = "etween".toList := by
    rw [hrest]
    refine takeWhile_letters (fun c hc => ?_) hspace
    exact letters_of_fixed (w := "between".toList) (by decide) c (List.mem_cons_of_mem 'b' hc)
  exact ⟨_, _, by rw [hrun]; rfl⟩

/-- What is captured before a word of trade is the first word or the fourth. -/
theorem captured_adjective {l x r : List Char} {cs : Captures} {trades : List String}
    (htext : joinWords (spanWords name first last) = l ++ (x ++ r))
    (hfits : (seq wordEdge (seq languageGroup (seq spaces (seq (oneOf (trades.map word)) wordEdge)))).Fits l x r cs)
    (htrades : trades = ["books", "works", "texts", "editions", "imprints", "incunabula", "printing"]) :
    ∃ w ∈ fixedWords, cs = [(1, w)] := by
  obtain ⟨v, w, _, _, rfl, ⟨_, _, hv⟩, ⟨_, _, hw⟩, hmem⟩ := last_neighbours (htext ▸ h.worded)
    matchesWords_languageGroup (matchesWords_words trades (htrades ▸ by decide)) hfits
  obtain ⟨⟨u, hu, hread⟩, rfl⟩ := (fits_words trades).mp hw
  rw [captures_of_languageGroup hv]
  rw [← htext, h.words_question] at hmem
  subst htrades
  have hnumeral : ∀ u ∈ ["books", "works", "texts", "editions", "imprints", "incunabula", "printing"],
      (u.toList.head?.any fun d => '0' ≤ d && d ≤ '9') = false := by decide
  have hothers : ∀ u ∈ ["books", "works", "texts", "editions", "imprints", "incunabula", "printing"],
      ¬Reads u "published".toList ∧ ¬Reads u "by".toList ∧ ¬Reads u "between".toList ∧ ¬Reads u "and".toList := by
    decide
  obtain ⟨hpublished, hby, hbetween, hand⟩ := hothers u hu
  rcases neighbour_cases hmem with ⟨rfl, -⟩ | ⟨-, rfl⟩ | ⟨-, rfl, -⟩ | ⟨rfl, -⟩ | ⟨-, rfl, -⟩ | ⟨-, rfl, -⟩ |
    ⟨-, rfl⟩ | ⟨-, rfl⟩
  · exact ⟨_, by decide, rfl⟩
  · exact absurd hread hpublished
  · exact absurd hread hby
  · exact ⟨_, by decide, rfl⟩
  · exact absurd hread hbetween
  · exact absurd hread (h.first.not_reads (hnumeral u hu))
  · exact absurd hread hand
  · exact absurd hread (h.last.not_reads (hnumeral u hu))

/-- The question names no language. -/
theorem firstPhrase_language : firstPhrase languagePhrases (joinWords (spanWords name first last)) = none := by
  refine firstPhrase_eq_none fun ph hph => ?_
  simp only [languagePhrases, List.mem_cons, List.not_mem_nil, or_false] at hph
  have hworded := h.worded
  rcases hph with rfl | rfl | rfl | rfl
  · refine find_eq_none fun l x r cs htext hfits => ?_
    rw [htext] at hworded
    obtain ⟨v, w, _, _, _, _, _, -, ⟨_, _, hv⟩, ⟨_, _, hw⟩, hmem, -⟩ := first_neighbours hworded
      (matchesWords_words ["written", "composed"] (by decide)) (matchesWords_word (by decide)) hfits
    rw [← htext, h.words_question] at hmem
    obtain ⟨⟨u, hu, hread⟩, -⟩ := (fits_words _).mp hv
    have hdone := not_done_in hmem
      ⟨u, List.mem_append_right ["printed", "published", "issued", "produced"] hu, hread⟩
    exact hdone.1 (fits_word.mp hw).1
  · refine find_eq_none fun l x r cs htext hfits => ?_
    rw [htext] at hworded
    obtain ⟨v, w, _, _, -, -, ⟨_, _, hw⟩, hmem⟩ :=
      last_neighbours hworded matchesWords_languageGroup (matchesWords_word (by decide)) hfits
    rw [← htext, h.words_question] at hmem
    exact h.not_reads_language w (mem_of_neighbours hmem).2 (fits_word.mp hw).1
  · refine find_eq_none_of_take fun m hm => ?_
    obtain ⟨l, ahead, htext, hhead⟩ := mem_allMatches hm
    obtain ⟨l', r', rfl⟩ := h.captured_in htext hhead
    have hbetween : "between".toList ∈ fixedWords := by decide
    dsimp only
    exact takeKnownLanguage_fixed hbetween
  · refine find_eq_none_of_take fun m hm => ?_
    obtain ⟨l, x, r, cs, htext, hfits, rfl⟩ := fits_of_mem_allMatches hm
    obtain ⟨w, hw, rfl⟩ := h.captured_adjective htext hfits rfl
    dsimp only
    exact takeKnownLanguage_fixed hw

end Spanned

/-! ### The plan -/

/-- The value of a year. -/
def yearOf (w : String) : Int := Number.digitsValue w.toList

/-- The plan for the books of a publisher from a span of years, which may be named in reverse. -/
def spanPlan (question name : String) (first last : Int) (limit : Option Nat) : Plan where
  version := Plan.currentVersion
  queryText := question
  filters := [⟨.publisher, .equals, .text (matchKey name), false, none, none⟩,
    ⟨.year, .range, .range (min first last) (max first last), false, none, none⟩]
  softFilters := []
  limit := Plan.positive limit
  debug := (Plan.Key.backend, .str backend) ::
    (Plan.Key.patterns, .obj [("publisher", .str "published_by"), ("year", .str "between_and")]) ::
    if last < first then [(Plan.Key.swappedYearBounds, .bool true)] else []

theorem compile_spanned {name first last : String} (h : Spanned name.toList first.toList last.toList)
    (limit : Option Nat) : compile (spanQuestion name first last) limit =
      spanPlan (spanQuestion name first last) name (yearOf first) (yearOf last) limit := by
  have htrimmed : Filter.Trimmed (matchKey name) := by
    have htaken := takeName_word (l := []) (r := []) h.spelled h.named
    rw [String.ofList_toList] at htaken
    exact (takeName_eq_some htaken).2
  have hpublisher : publisher? (spanQuestion name first last).toList =
      some ⟨"publisher", "published_by", ⟨.publisher, .equals, .text (matchKey name), false, none, none⟩⟩ := by
    rw [publisher?, toList_spanQuestion, h.firstPhrase_publisher, String.ofList_toList]
    have hfound := finding?_key (show Field.publisher ≠ .year by decide) htrimmed "publisher" "published_by"
    simpa only [Option.bind_eq_bind, Option.bind_some] using hfound
  have hplace : place? (spanQuestion name first last).toList = none := by
    rw [place?, toList_spanQuestion, h.firstPhrase_place]
    rfl
  have hlanguage : language? (spanQuestion name first last).toList = none := by
    rw [language?, toList_spanQuestion, h.firstPhrase_language]
    rfl
  have hyears : years? (spanQuestion name first last).toList = (some ⟨"year", "between_and", ⟨.year, .range,
      .range (min (yearOf first) (yearOf last)) (max (yearOf first) (yearOf last)), false, none, none⟩⟩,
      decide (yearOf last < yearOf first)) := by
    rw [years?, toList_spanQuestion, h.firstPhrase_years]
    by_cases hlt : yearOf last < yearOf first
    · rw [min_eq_right (le_of_lt hlt), max_eq_left (le_of_lt hlt), decide_eq_true hlt]
      exact (if_pos hlt).trans (congrArg (·, true) (finding?_years (le_of_lt hlt) ..))
    · rw [min_eq_left (not_lt.mp hlt), max_eq_right (not_lt.mp hlt), decide_eq_false hlt]
      exact (if_neg hlt).trans (congrArg (·, false) (finding?_years (not_lt.mp hlt) ..))
  have hpatterns : Json.object [("publisher", .str "published_by"), ("year", .str "between_and")] =
      .obj [("publisher", .str "published_by"), ("year", .str "between_and")] :=
    congrArg Json.obj (Entries.sorted_of_ascending (List.pairwise_pair.mpr (by decide +kernel)))
  have hdebug (v : Json) : Entries.insert Plan.Key.patterns v (Entries.insert Plan.Key.backend (.str backend) []) =
      [(Plan.Key.backend, .str backend), (Plan.Key.patterns, v)] :=
    Entries.insert_last v (List.forall_mem_singleton.mpr (by decide +kernel))
  have hreversed (v : Json) : Entries.insert Plan.Key.swappedYearBounds (.bool true)
      [(Plan.Key.backend, .str backend), (Plan.Key.patterns, v)] =
      [(Plan.Key.backend, .str backend), (Plan.Key.patterns, v), (Plan.Key.swappedYearBounds, .bool true)] := by
    refine Entries.insert_last _ ?_
    simp only [List.forall_mem_cons]
    exact ⟨by decide +kernel, by decide +kernel, List.forall_mem_nil _⟩
  unfold compile spanPlan
  simp only [hpublisher, hyears, hplace, hlanguage, decide_eq_true_eq, List.filterMap_cons, List.filterMap_nil, id_eq,
    List.map_cons, List.map_nil, hpatterns, Plan.withDebug, Plan.withLimit, Plan.withFilters, Plan.ofText, hdebug,
    hreversed]
  by_cases hlt : yearOf last < yearOf first
  · rw [if_pos hlt, if_pos hlt]
  · rw [if_neg hlt, if_neg hlt]

/-- The question for the books of a publisher between two years asks for just that, whatever word of letters the name
is, unless it is the word language, and whichever of the years is named first: for the match key of the name, and
for the years from the earlier to the later. The phrases are those for a publisher and for years between two, and the
plan says so; it also says whether the years were named in reverse. So the question with the years exchanged has the
same plan, but for its text and for that entry. -/
theorem compile_spanQuestion {name first last : String} (h : Spanned name.toList first.toList last.toList)
    (limit : Option Nat) :
    compile (spanQuestion name first last) limit =
      spanPlan (spanQuestion name first last) name (yearOf first) (yearOf last) limit ∧
    ∃ debug, compile (spanQuestion name last first) limit =
        { compile (spanQuestion name first last) limit with
          queryText := spanQuestion name last first
          debug := debug } ∧
      ∀ key ≠ Plan.Key.swappedYearBounds,
        Entries.get? key debug = Entries.get? key (compile (spanQuestion name first last) limit).debug := by
  refine ⟨compile_spanned h limit, (compile (spanQuestion name last first) limit).debug, ?_, fun key hkey => ?_⟩
  · rw [compile_spanned h limit, compile_spanned h.exchange limit]
    simp only [spanPlan, min_comm, max_comm]
  · have hflag (b : Prop) [Decidable b] :
        Entries.get? key (if b then [(Plan.Key.swappedYearBounds, Json.bool true)] else []) = none := by
      split
      · rw [Entries.get?_cons, if_neg (Ne.symm hkey), Entries.get?_nil]
      · rfl
    rw [compile_spanned h limit, compile_spanned h.exchange limit]
    simp only [spanPlan, Entries.get?_cons, hflag]

/-- Aldus, and the later year first. -/
theorem spanned_aldus : Spanned "Aldus".toList "1515".toList "1495".toList where
  named := by decide
  spelled := List.all_eq_true.mp (by decide +kernel)
  other := by decide +kernel
  first := ⟨by decide, by simp⟩
  last := ⟨by decide, by simp⟩

theorem compile_spanQuestion_aldus : compile (spanQuestion "Aldus" "1515" "1495") (some 5) =
    spanPlan (spanQuestion "Aldus" "1515" "1495") "Aldus" 1515 1495 (some 5) := by
  have hyears : yearOf "1515" = 1515 ∧ yearOf "1495" = 1495 := by decide
  obtain ⟨hplan, -⟩ := compile_spanQuestion spanned_aldus (some 5)
  rw [hplan, hyears.1, hyears.2]

end Catalogue.Question
