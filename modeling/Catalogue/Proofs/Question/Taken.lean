import Catalogue.Proofs.Filter.Rules
import Catalogue.Proofs.Index.Parameters
import Catalogue.Proofs.Question.Phrase

/-! What the phrases of a question take, whatever the question is. A name that is taken is its own match key
(`takeName_eq_some`), and that of a place is none of time, of trade, or of languages alone (`takePlace_eq_some`);
the name of a language is its own folded code (`language_taken`); years are years of at most four digits
(`years_taken`). What a phrase takes, it takes from what some part of its pattern matched, so one lemma on patterns
serves for all (`exists_group_of_captured`). -/
namespace Catalogue.Question

open Text Pattern Catalogue.Filter Index

variable {text : List Char} {m : Place}

/-! ### Matches -/

/-- What is found was taken from a match of one of the phrases. -/
theorem firstPhrase_eq_some {α : Type} {phrases : List (Phrase α)} {name : String} {a : α}
    (h : firstPhrase phrases text = some (name, a)) :
    ∃ ph ∈ phrases, ph.name = name ∧ ∃ m ∈ ph.pattern.allMatches text, ph.take m = some a := by
  obtain ⟨ph, hph, hfound⟩ := List.exists_of_findSome?_eq_some h
  obtain ⟨b, hb, heq⟩ := Option.map_eq_some_iff.mp hfound
  cases heq
  obtain ⟨m, hm, htake⟩ := List.exists_of_findSome?_eq_some hb
  exact ⟨ph, hph, rfl, m, hm, htake⟩

theorem take_publisherPhrases {ph : Phrase String} (h : ph ∈ publisherPhrases) : ph.take = takeName := by
  simp only [publisherPhrases, List.mem_cons, List.not_mem_nil, or_false] at h
  rcases h with rfl | rfl | rfl <;> rfl

theorem take_placePhrases {ph : Phrase String} (h : ph ∈ placePhrases) : ph.take = takePlace := by
  simp only [placePhrases, List.mem_cons, List.not_mem_nil, or_false] at h
  rcases h with rfl | rfl <;> rfl

theorem take_languagePhrases {ph : Phrase String} (h : ph ∈ languagePhrases) :
    ph.take = takeLanguage ∨ ph.take = takeKnownLanguage := by
  simp only [languagePhrases, List.mem_cons, List.not_mem_nil, or_false] at h
  rcases h with rfl | rfl | rfl | rfl
  · exact .inl rfl
  · exact .inl rfl
  · exact .inr rfl
  · exact .inr rfl

theorem group_eq_some {n : Nat} {s : String} (h : group n m = some s) :
    ∃ y, m.captured? n = some y ∧ s = trim (String.ofList y) := by
  obtain ⟨y, hy, hs⟩ := Option.map_eq_some_iff.mp h
  exact ⟨y, hy, hs.symm⟩

/-! ### Names -/

theorem trim_word {w : List Char} (hw : IsWord w) : trim (String.ofList w) = String.ofList w := by
  rw [trim, String.toList_ofList, trim_of_bare (bare_of_forall hw.solid)]

/-- Where a key goes on after white space, its words are joined by single spaces, if white space about it is cut
off. -/
theorem trim_suffix {ws : List (List Char)} (hws : ∀ w ∈ ws, IsWord w) {x y : List Char} (h : joinWords ws = x ++ y)
    (hx : ∀ c ∈ x.getLast?, isSpace c = true) (hne : trimEnd (trimStart y) ≠ []) :
    trimEnd (trimStart y) = joinWords (words (trimEnd (trimStart y))) := by
  have hstart : trimStart y ≠ [] := by
    intro hnil
    rw [hnil] at hne
    exact hne rfl
  have hbefore : ∀ c ∈ (x ++ y.takeWhile isSpace).getLast?, isSpace c = true := by
    intro c hc
    by_cases hnone : y.takeWhile isSpace = []
    · rw [hnone, List.append_nil] at hc
      exact hx c hc
    · rw [List.getLast?_append_of_ne_nil _ hnone] at hc
      exact List.mem_takeWhile_imp (List.mem_of_mem_getLast? hc)
  have hsplit : joinWords ws = (x ++ y.takeWhile isSpace) ++ trimStart y := by
    rw [h, List.append_assoc, trimStart, List.takeWhile_append_dropWhile]
  have hjoined := eq_joinWords_of_suffix hws hsplit hbefore hstart (first_trimStart y)
  have hbare : Bare (trimStart y) := by
    rw [hjoined]
    exact bare_joinWords fun _ => isWord_of_mem_words
  have htrimmed : trimEnd (trimStart y) = trimStart y := by
    rw [← trimStart_of_first hbare.first, trim_of_bare hbare, trimStart_of_first hbare.first]
  rw [htrimmed]
  exact hjoined

/-- The part of a match key that is left after an article, or all of it, is a match key. -/
theorem matchKey_suffix {s : String} {x y : List Char} (h : (matchKey s).toList = x ++ y)
    (hx : ∀ c ∈ x.getLast?, isSpace c = true) (hne : trim (String.ofList y) ≠ "") :
    matchKey (trim (String.ofList y)) = trim (String.ofList y) := by
  have hkey : (matchKey s).toList = matchKeyChars s.toList := String.toList_ofList
  have hchars : ∀ c ∈ trimEnd (trimStart y), KeyChar c := by
    intro c hc
    refine keyChar_of_mem_matchKeyChars (s := s.toList) ?_
    rw [← hkey, h]
    exact List.mem_append_right _ (mem_of_mem_trim hc)
  have hnonempty : trimEnd (trimStart y) ≠ [] := by
    intro hnil
    refine hne ?_
    rw [trim, String.toList_ofList, hnil]
  have hjoined := trim_suffix (fun _ => isWord_of_mem_words) (hkey.symm.trans h) hx hnonempty
  rw [matchKey, trim, String.toList_ofList, String.toList_ofList, matchKeyChars_eq hchars hjoined]

/-- A name that is taken is its own match key. -/
theorem takeName_eq_some {key : String} (h : takeName m = some key) : matchKey key = key ∧ Trimmed key := by
  simp only [takeName, Option.bind_eq_bind, Option.bind_eq_some_iff, Option.ite_none_left_eq_some,
    Option.some.injEq] at h
  obtain ⟨s, -, hempty, rfl⟩ := h
  have hne {y : List Char} (hy : ¬(trim (String.ofList y)).isEmpty = true) : trim (String.ofList y) ≠ "" :=
    fun hnone => hy (String.isEmpty_iff.mpr hnone)
  refine ⟨?_, trim_trim _, hne hempty⟩
  by_cases harticle : ['t', 'h', 'e', ' '].isPrefixOf (matchKey s).toList = true
  · rw [if_pos harticle] at hempty ⊢
    obtain ⟨y, hy⟩ := List.isPrefixOf_iff_prefix.mp harticle
    rw [← hy] at hempty ⊢
    exact matchKey_suffix hy.symm (by rintro c ⟨⟩; rfl) (hne hempty)
  · rw [if_neg harticle] at hempty ⊢
    exact matchKey_suffix (List.nil_append _).symm nofun (hne hempty)

/-! ### Places -/

/-- The key of a place: no word of time or trade in it, not languages only, no digit from zero to nine. -/
structure PlaceKey (key : String) : Prop where
  untraded : ∀ w ∈ keyWords key, w ∉ nonPlaceWords
  named : ∃ w ∈ keyWords key, isLanguageName w = false
  undigited : ∀ c ∈ key.toList, ¬('0' ≤ c ∧ c ≤ '9')

/-- A text that is its own match key is joined from its words. -/
theorem eq_joinWords_of_matchKey {key : String} (h : matchKey key = key) :
    key.toList = joinWords (words key.toList) := by
  have hkey : key.toList = matchKeyChars key.toList := by
    rw [← String.toList_ofList (l := matchKeyChars key.toList)]
    exact congrArg String.toList h.symm
  have hwords : words (matchKeyChars key.toList) = words (kept key.toList) :=
    words_joinWords fun _ => isWord_of_mem_words
  rw [← hkey] at hwords
  rw [hwords]
  exact hkey

theorem takePlace_eq_some {key : String} (h : takePlace m = some key) : takeName m = some key ∧ PlaceKey key := by
  unfold takePlace at h
  obtain ⟨name, hname, h⟩ := Option.bind_eq_some_iff.mp h
  simp only at h
  split at h
  · cases h
  rename_i htrade
  split at h
  · cases h
  rename_i hlanguages
  split at h
  · cases h
  rename_i hdigits
  obtain rfl := Option.some.inj h
  refine ⟨hname, ⟨?_, ?_, ?_⟩⟩
  · simpa using htrade
  · simpa using hlanguages
  · intro c hc hdigit
    rw [eq_joinWords_of_matchKey (takeName_eq_some hname).1] at hc
    rcases mem_joinWords hc with hspace | ⟨w, hw, hcw⟩
    · rw [hspace] at hdigit
      exact absurd hdigit (by decide)
    · refine hdigits (List.any_eq_true.mpr ⟨String.ofList w, List.mem_map_of_mem hw, ?_⟩)
      rw [String.toList_ofList]
      exact List.any_eq_true.mpr ⟨c, hcw, by simpa using hdigit⟩

/-! ### Languages -/

/-- The codes of languages are folded codes. -/
theorem foldedCode_languageCodes : ∀ e ∈ languageCodes, foldedCode e.2 = e.2 ∧ trim e.2 = e.2 ∧ e.2 ≠ "" := by
  decide +kernel

theorem languageCode?_eq_some {name code : String} (h : languageCode? name = some code) :
    foldedCode code = code ∧ Trimmed code := by
  obtain ⟨e, he, rfl⟩ := Option.map_eq_some_iff.mp h
  exact foldedCode_languageCodes e (List.mem_of_find?_eq_some he)

/-- The code of any name that is not blank is a folded code. -/
theorem foldedCode_languageCode {name : String} (hname : isBlank name = false) :
    foldedCode (languageCode name) = languageCode name ∧ Trimmed (languageCode name) := by
  unfold languageCode
  cases hcode : languageCode? name with
  | some code =>
    rw [Option.getD_some]
    exact languageCode?_eq_some hcode
  | none =>
    rw [Option.getD_none]
    exact ⟨foldedCode_foldedCode name, trim_foldedCode name, foldedCode_ne_empty hname⟩

/-- Every phrase for a language captures a word. -/
theorem groups_languagePhrases : ∀ ph ∈ languagePhrases, ph.pattern.groups =
    [(1, seq (one isLetterAnyCase) (star (one fun c => isLetterAnyCase c || c == '-')))] := by
  intro ph hph
  simp only [languagePhrases, List.mem_cons, List.not_mem_nil, or_false] at hph
  rcases hph with rfl | rfl | rfl | rfl <;> rfl

/-- What is captured for a language is not blank. -/
theorem not_blank_captured {ph : Phrase String} (hph : ph ∈ languagePhrases) (hm : m ∈ ph.pattern.allMatches text)
    {name : String} (h : group 1 m = some name) : isBlank name = false := by
  obtain ⟨y, hy, rfl⟩ := group_eq_some h
  obtain ⟨a, ha, l, r, cs, hfits⟩ := exists_group_of_captured hm hy
  rw [groups_languagePhrases ph hph, List.mem_singleton] at ha
  cases ha
  obtain ⟨c, z, rfl, hc, -⟩ := fits_one_then.mp hfits
  have hblank : isBlank (String.ofList (c :: z)) = false := by
    rw [isBlank, String.toList_ofList, List.all_cons, isSpace_of_letterAnyCase hc, Bool.false_and]
  have htrimmed := trimmed_trim_iff.mpr hblank
  rw [← trim_trim] at htrimmed
  exact trimmed_trim_iff.mp htrimmed

/-- A language that is found is its own folded code. -/
theorem language_taken {name code : String} (h : firstPhrase languagePhrases text = some (name, code)) :
    foldedCode code = code ∧ Trimmed code := by
  obtain ⟨ph, hph, -, m, hm, htake⟩ := firstPhrase_eq_some h
  rcases take_languagePhrases hph with hany | hknown
  · rw [hany] at htake
    obtain ⟨name, hname, rfl⟩ := Option.map_eq_some_iff.mp htake
    exact foldedCode_languageCode (not_blank_captured hph hm hname)
  · rw [hknown] at htake
    obtain ⟨name, -, hcode⟩ := Option.bind_eq_some_iff.mp htake
    exact languageCode?_eq_some hcode

/-! ### Years -/

/-- A year of at most four digits. -/
def IsYear (n : Int) : Prop := 0 ≤ n ∧ n ≤ 9999

theorem fits_upTo {more : Nat} {l x r : List Char} {cs : Captures} : (upTo digit more).Fits l x r cs ↔
    x.length ≤ more ∧ (∀ c ∈ x, decimalDigits.holds c = true) ∧ cs = [] := by
  induction more generalizing l x cs with
  | zero =>
    constructor
    · intro ⟨hx, hcs⟩
      rw [hx]
      exact ⟨le_rfl, nofun, hcs⟩
    · intro ⟨hlength, _, hcs⟩
      exact ⟨List.length_eq_zero_iff.mp (Nat.le_zero.mp hlength), hcs⟩
  | succ more ih =>
    constructor
    · intro h
      rcases h with ⟨_, y, _, _, rfl, rfl, ⟨⟨c, rfl, hc⟩, rfl⟩, hy⟩ | ⟨rfl, rfl⟩
      · obtain ⟨hlength, hdigits, rfl⟩ := ih.mp hy
        exact ⟨Nat.succ_le_succ hlength, List.forall_mem_cons.mpr ⟨hc, hdigits⟩, rfl⟩
      · exact ⟨Nat.zero_le _, nofun, rfl⟩
    · intro ⟨hlength, hdigits, hcs⟩
      subst hcs
      cases x with
      | nil => exact .inr ⟨rfl, rfl⟩
      | cons c y =>
        obtain ⟨hc, hy⟩ := List.forall_mem_cons.mp hdigits
        exact .inl ⟨[c], y, [], [], rfl, rfl, ⟨⟨c, rfl, hc⟩, rfl⟩, ih.mpr ⟨Nat.le_of_succ_le_succ hlength, hy, rfl⟩⟩

/-- A run of digits, of a length between two bounds. -/
theorem fits_times {low more : Nat} {l x r : List Char} {cs : Captures} : (times digit low more).Fits l x r cs ↔
    (low ≤ x.length ∧ x.length ≤ low + more) ∧ (∀ c ∈ x, decimalDigits.holds c = true) ∧ cs = [] := by
  induction low generalizing l x cs with
  | zero =>
    rw [times, fits_upTo, Nat.zero_add, and_iff_right (Nat.zero_le _)]
  | succ low ih =>
    constructor
    · intro h
      obtain ⟨_, y, _, _, rfl, rfl, ⟨⟨c, rfl, hc⟩, rfl⟩, hy⟩ := h
      obtain ⟨⟨hlow, hhigh⟩, hdigits, rfl⟩ := ih.mp hy
      refine ⟨?_, List.forall_mem_cons.mpr ⟨hc, hdigits⟩, rfl⟩
      rw [List.singleton_append, List.length_cons]
      omega
    · intro h
      obtain ⟨⟨hlow, hhigh⟩, hdigits, rfl⟩ := h
      cases x with
      | nil => exact absurd hlow (Nat.not_succ_le_zero low)
      | cons c y =>
        obtain ⟨hc, hy⟩ := List.forall_mem_cons.mp hdigits
        rw [List.length_cons] at hlow hhigh
        exact ⟨[c], y, [], [], rfl, rfl, ⟨⟨c, rfl, hc⟩, rfl⟩, ih.mpr ⟨⟨by omega, by omega⟩, hy, rfl⟩⟩

/-- A number that is read from a captured run of at most four digits is a year. -/
theorem isYear_of_parse {ph : Phrase (Int × Int)} (hm : m ∈ ph.pattern.allMatches text)
    (hgroups : ∀ n a, (n, a) ∈ ph.pattern.groups → a = times digit 3 1 ∨ a = times digit 4 0) {n : Nat} {s : String}
    (hs : group n m = some s) {year : Int} (hyear : Number.parseInt32? s = some year) : IsYear year := by
  obtain ⟨y, hy, rfl⟩ := group_eq_some hs
  obtain ⟨a, ha, l, r, cs, hfits⟩ := exists_group_of_captured hm hy
  have hdigits : y.length ≤ 4 ∧ ∀ c ∈ y, decimalDigits.holds c = true := by
    rcases hgroups n a ha with rfl | rfl
    · exact ⟨(fits_times.mp hfits).1.2, (fits_times.mp hfits).2.1⟩
    · exact ⟨(fits_times.mp hfits).1.2, (fits_times.mp hfits).2.1⟩
  have htrimmed : (trim (String.ofList y)).toList = trimEnd (trimStart y) := by
    rw [trim, String.toList_ofList, String.toList_ofList]
  have hminus : '-' ∉ (trim (String.ofList y)).toList := by
    intro hmem
    rw [htrimmed] at hmem
    have hheld := hdigits.2 '-' (mem_of_mem_trim hmem)
    exact absurd hheld (by decide +kernel)
  have hlength : (trim (String.ofList y)).toList.length ≤ 4 := by
    rw [htrimmed, trimEnd, List.length_reverse]
    refine ((List.dropWhile_sublist _).length_le.trans ?_).trans hdigits.1
    rw [List.length_reverse]
    exact (List.dropWhile_sublist _).length_le
  obtain ⟨hlow, hhigh⟩ := Number.parseInteger?_bounds hyear hminus
  have hpower : (10 : Int) ^ (trim (String.ofList y)).toList.length ≤ 10 ^ 4 := by
    exact_mod_cast Nat.pow_le_pow_right (by decide) hlength
  exact ⟨hlow, by omega⟩

theorem isYear_of_centuryBounds {n first last : Int} (h : centuryBounds n = some (first, last)) :
    IsYear first ∧ IsYear last := by
  unfold centuryBounds at h
  split at h
  · rename_i hn
    cases h
    rw [Bool.and_eq_true, decide_eq_true_eq, decide_eq_true_eq] at hn
    unfold IsYear
    omega
  · cases h

/-- Years that are found are years of at most four digits. -/
theorem years_taken {name : String} {first last : Int}
    (h : firstPhrase yearPhrases text = some (name, first, last)) : IsYear first ∧ IsYear last := by
  obtain ⟨ph, hph, -, m, hm, htake⟩ := firstPhrase_eq_some h
  have htwo (hgroups : ph.pattern.groups = [(1, times digit 3 1), (2, times digit 3 1)])
      (htake : takeYears m = some (first, last)) : IsYear first ∧ IsYear last := by
    have hyears : ∀ n a, (n, a) ∈ ph.pattern.groups → a = times digit 3 1 ∨ a = times digit 4 0 := by
      intro n a ha
      rw [hgroups, List.mem_pair] at ha
      rcases ha with heq | heq
      · exact .inl (congrArg Prod.snd heq)
      · exact .inl (congrArg Prod.snd heq)
    unfold takeYears at htake
    obtain ⟨s, hs, htake⟩ := Option.bind_eq_some_iff.mp htake
    obtain ⟨a, ha, htake⟩ := Option.bind_eq_some_iff.mp htake
    obtain ⟨t, ht, htake⟩ := Option.bind_eq_some_iff.mp htake
    obtain ⟨b, hb, htake⟩ := Option.bind_eq_some_iff.mp htake
    cases htake
    exact ⟨isYear_of_parse hm hyears hs ha, isYear_of_parse hm hyears ht hb⟩
  simp only [yearPhrases, List.mem_cons, List.not_mem_nil, or_false] at hph
  rcases hph with rfl | rfl | rfl | rfl | rfl | rfl
  · exact htwo rfl htake
  · exact htwo rfl htake
  · exact htwo rfl htake
  · replace htake : takeCentury m = some (first, last) := htake
    unfold takeCentury at htake
    obtain ⟨s, -, htake⟩ := Option.bind_eq_some_iff.mp htake
    obtain ⟨n, -, hbounds⟩ := Option.bind_eq_some_iff.mp htake
    exact isYear_of_centuryBounds hbounds
  · replace htake : takeOrdinal m = some (first, last) := htake
    unfold takeOrdinal at htake
    obtain ⟨s, -, htake⟩ := Option.bind_eq_some_iff.mp htake
    obtain ⟨n, -, hbounds⟩ := Option.bind_eq_some_iff.mp htake
    exact isYear_of_centuryBounds hbounds
  · replace htake : takeYear m = some (first, last) := htake
    unfold takeYear at htake
    obtain ⟨s, hs, htake⟩ := Option.bind_eq_some_iff.mp htake
    obtain ⟨a, ha, htake⟩ := Option.bind_eq_some_iff.mp htake
    cases htake
    have hyear : IsYear first := by
      refine isYear_of_parse hm (fun n p hp => .inr ?_) hs ha
      exact congrArg Prod.snd (List.mem_singleton.mp hp)
    exact ⟨hyear, hyear⟩

end Catalogue.Question
