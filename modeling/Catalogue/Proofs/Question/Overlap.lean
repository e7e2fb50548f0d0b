import Catalogue.Proofs.Pattern.Capture
import Catalogue.Proofs.Question.Findings
import Catalogue.Proofs.Question.Neighbours

/-! Where the names in a question are taken from (`TakenAt`), and when a word after in that is taken for a language is
part of what is taken for a place as well. A place is not the names of languages alone, so the word by itself is no
place (`takePlace_language`). But the phrases for a place capture more than a word: the place includes the word if it
goes on with an apostrophe or white space after it, or if it takes in the word in before it, and not otherwise
(`includes_language_iff`). -/
namespace Catalogue.Question

open Text Pattern

variable {text l r x w g : List Char} {cs : Captures} {name key code : String} {m : Place}

deriving instance DecidableEq for Pattern.Place

/-! ### Where names are taken -/

/-- Whether a phrase finds something by a match: the first match from which anything is taken. -/
structure FindsBy {α : Type} (ph : Phrase α) (text : List Char) (m : Place) (a : α) : Prop where
  first : ∃ ms ns, ph.pattern.allMatches text = ms ++ m :: ns ∧ ∀ m' ∈ ms, ph.take m' = none
  take : ph.take m = some a

theorem find_eq_some_iff {α : Type} {ph : Phrase α} {a : α} : ph.find text = some a ↔ ∃ m, FindsBy ph text m a := by
  rw [Phrase.find, List.findSome?_eq_some_iff]
  constructor
  · intro h
    obtain ⟨ms, m, ns, hms, htake, hnone⟩ := h
    exact ⟨m, ⟨ms, ns, hms, hnone⟩, htake⟩
  · intro h
    obtain ⟨m, ⟨ms, ns, hms, hnone⟩, htake⟩ := h
    exact ⟨ms, m, ns, hms, htake, hnone⟩

/-- Whether a name is taken from the part of a text that stands after `before`: by the first phrase that finds
anything, from the first match from which it takes anything, which captures the part there. -/
inductive TakenAt (phrases : List (Phrase String)) (text : List Char) (name key : String) (before part : List Char) :
    Prop
  | intro {earlier later : List (Phrase String)} {ph : Phrase String} {l x r : List Char} {cs : Captures}
    (hphrases : phrases = earlier ++ ph :: later) (hearlier : ∀ ph' ∈ earlier, ph'.find text = none)
    (hname : ph.name = name) (hfinds : FindsBy ph text (.between (l ++ x) r cs) key) (htext : text = l ++ (x ++ r))
    (hhead : (ph.pattern.outcomes (.between l (x ++ r) [])).head? = some (.between (l ++ x) r cs))
    (hcaptured : (Place.between (l ++ x) r cs).captured? 1 = some part)
    (hat : CapturesAt 1 before part ph.pattern l x r) : TakenAt phrases text name key before part

/-- What is taken from a part of the text is found. -/
theorem TakenAt.firstPhrase_eq {phrases : List (Phrase String)} {before part : List Char}
    (h : TakenAt phrases text name key before part) : firstPhrase phrases text = some (name, key) := by
  obtain ⟨hphrases, hearlier, rfl, hfinds, -, -, -, -⟩ := h
  rename_i earlier later ph l x r cs
  refine List.findSome?_eq_some_iff.mpr ⟨earlier, ph, later, hphrases, ?_, fun ph' hph' => ?_⟩
  · rw [find_eq_some_iff.mpr ⟨_, hfinds⟩]
    rfl
  · rw [hearlier ph' hph']
    rfl

/-- What is found is taken from some part of the text, if it is taken from what is captured. -/
theorem exists_takenAt {phrases : List (Phrase String)} (h : firstPhrase phrases text = some (name, key))
    (hgroup : ∀ ph ∈ phrases, ∀ m key, ph.take m = some key → (m.captured? 1).isSome = true) :
    ∃ before part, TakenAt phrases text name key before part := by
  obtain ⟨earlier, ph, later, hphrases, hph, hearlier⟩ := List.findSome?_eq_some_iff.mp h
  obtain ⟨found, hfound, heq⟩ := Option.map_eq_some_iff.mp hph
  cases heq
  obtain ⟨m, hfinds⟩ := find_eq_some_iff.mp hfound
  obtain ⟨part, hpart⟩ := Option.isSome_iff_exists.mp (hgroup ph (by simp [hphrases]) m key hfinds.take)
  obtain ⟨ms, ns, hms, -⟩ := hfinds.first
  have hmem : m ∈ ph.pattern.allMatches text := by
    rw [hms]
    simp
  obtain ⟨l, ahead, htext, hhead⟩ := mem_allMatches hmem
  obtain ⟨x, r, cs, rfl, hfits, rfl⟩ := (mem_outcomes _).mp (List.mem_of_mem_head? hhead)
  rw [List.append_nil] at hpart hfinds hhead
  obtain ⟨before, hat⟩ := hfits.exists_capturesAt (mem_of_captured? hpart)
  refine ⟨before, part, .intro hphrases (fun ph' hph' => ?_) rfl hfinds htext hhead hpart hat⟩
  simpa using hearlier ph' hph'

/-- A group after a word that white space follows captures what stands there. -/
theorem capturesAt_after {p q : Pattern} {i s : List Char} (hedge : Edge l (i ++ (s ++ (w ++ r))))
    (hp : p.Fits l i (s ++ (w ++ r)) cs) (hs : IsGap s) (hq : q.Fits (l ++ (i ++ s)) w r []) :
    CapturesAt 1 (l ++ (i ++ s)) w (chain [wordEdge, p, spaces, capture 1 q]) l (i ++ (s ++ w)) r := by
  have hgroup : CapturesAt 1 (l ++ (i ++ s)) w (seq spaces (capture 1 q)) (l ++ i) (s ++ w) r := by
    refine .later (fits_spaces.mpr ⟨hs, rfl⟩) ?_
    rw [List.append_assoc]
    exact .here hq
  have hword : CapturesAt 1 (l ++ (i ++ s)) w (seq p (seq spaces (capture 1 q))) (l ++ []) (i ++ (s ++ w)) r := by
    rw [← List.append_assoc] at hp
    rw [List.append_nil]
    exact .later hp hgroup
  refine .later (y := []) ⟨rfl, ?_, rfl⟩ hword
  simpa using hedge

/-- Whether a part of a text includes another, each with what comes before it. -/
def Includes (before part before' part' : List Char) : Prop :=
  ∃ u v, before' = before ++ u ∧ part = u ++ (part' ++ v)

/-! ### Languages -/

/-- A word for a language after in, all of a run of letters and hyphens. -/
structure AfterIn (text before w : List Char) (code : String) : Prop where
  exists_in : ∃ l i s, before = l ++ (i ++ s) ∧ Reads "in" i ∧ IsGap s
  exists_rest : ∃ r, text = before ++ (w ++ r) ∧ ∀ c ∈ r.head?, isLetterAnyCase c = false ∧ c ≠ '-'
  word : IsWord w
  code : languageCode? (String.ofList w) = some code

theorem afterIn_of_takenAt (h : TakenAt languagePhrases text "known_in" code l w) : AfterIn text l w code := by
  obtain ⟨hphrases, -, hname, hfinds, htext, hhead, hcaptured, hat⟩ := h
  rename_i earlier later ph l₀ x r cs
  have hph : ph ∈ languagePhrases := by simp [hphrases]
  simp only [languagePhrases, List.mem_cons, List.not_mem_nil, or_false] at hph
  rcases hph with rfl | rfl | rfl | rfl
  · exact absurd hname (by decide)
  · exact absurd hname (by decide)
  · obtain ⟨_, _, c, rest, -, -, -, -, -, hm⟩ := head_after_in hhead
    have hrest : r = rest.dropWhile fun c => isLetterAnyCase c || c == '-' := congrArg Place.rest hm
    obtain ⟨_, _, rfl, ⟨rfl, -, -⟩, hat⟩ := capturesAt_later rfl hat
    obtain ⟨i, _, rfl, hin, hat⟩ := capturesAt_later rfl hat
    obtain ⟨s, _, rfl, hspaces, hat⟩ := capturesAt_later rfl hat
    obtain ⟨hbefore, hpart, hword⟩ := capturesAt_capture rfl hat
    rw [hpart] at htext
    have hsolid : IsWord w := matchesWords_languageGroup ⟨[], rfl, hword⟩
    refine ⟨⟨l₀, i, s, by simp [← hbefore], (fits_word.mp hin).1, (fits_spaces.mp hspaces).1⟩,
      ⟨r, by simpa [← hbefore] using htext, ?_⟩, hsolid, ?_⟩
    · intro d hd
      have hstop := List.head?_dropWhile_not (fun c => isLetterAnyCase c || c == '-') rest
      rw [← hrest, Option.mem_def.mp hd] at hstop
      simpa using hstop
    · have htake := hfinds.take
      simp only [takeKnownLanguage, group, hcaptured, Option.map_some, Option.bind_some] at htake
      rwa [trim_word hsolid] at htake
  · exact absurd hname (by decide)

/-- A match key keeps the characters of the names of languages. -/
theorem kept_languageCodes {e : String × String} (he : e ∈ languageCodes) : e.1.toList ≠ [] ∧
    ∀ c ∈ e.1.toList, (c ≠ 'σ' ∧ c ≠ 'ς') ∧ isSpace c = false ∧ keyCharacters c = [c] := by
  have htable : ∀ e ∈ languageCodes, e.1.toList ≠ [] ∧ (e.1.toList.all fun c =>
      (c ≠ 'σ' ∧ c ≠ 'ς') ∧ isSpace c = false ∧ keyCharacters c = [c]) = true := by decide +kernel
  obtain ⟨hne, hchars⟩ := htable e he
  exact ⟨hne, fun c hc => of_decide_eq_true (List.all_eq_true.mp hchars c hc)⟩

/-- A language is known by the folded code of its name. -/
theorem languageCode?_congr {s t : String} (h : foldedCode s = foldedCode t) : languageCode? s = languageCode? t := by
  unfold foldedCode at h
  rw [languageCode?, languageCode?, h]

/-- The match key of a word for a language is a word for that language. -/
theorem kept_language (hw : IsWord w) (hcode : languageCode? (String.ofList w) = some code) :
    IsWord (kept w) ∧ languageCode? (String.ofList (kept w)) = some code := by
  obtain ⟨e, he, -⟩ := Option.map_eq_some_iff.mp hcode
  have hname : e.1 = lowercase (trim (String.ofList w)) := by simpa using List.find?_some he
  obtain ⟨hne, hchars⟩ := kept_languageCodes (List.mem_of_find?_eq_some he)
  have hlower : w.flatMap lower = e.1.toList := by
    rw [trim_word hw, lowercase, String.toList_ofList] at hname
    have hlowered : lowercaseAfter [] w = e.1.toList := by rw [hname, String.toList_ofList]
    rw [← hlowered]
    refine flatMap_lower fun c hc => (hchars c ?_).1
    rwa [← hlowered]
  have hkept : kept w = e.1.toList := by
    rw [kept, hlower, List.flatMap_congr fun c hc => (hchars c hc).2.2, List.flatMap_singleton']
  refine ⟨?_, ?_⟩
  · rw [hkept]
    exact ⟨hne, fun c hc => (hchars c hc).2.1⟩
  · rw [hkept, String.ofList_toList, ← hcode]
    refine languageCode?_congr ?_
    rw [hname]
    exact foldedCode_foldedCode _

/-! ### Places -/

/-- A word for a language is no place by itself. -/
theorem takePlace_language (hw : IsWord w) (hcode : languageCode? (String.ofList w) = some code)
    (hm : m.captured? 1 = some w) : takePlace m = none := by
  obtain ⟨hkept, hknown⟩ := kept_language hw hcode
  have hwords : keyWords (String.ofList (kept w)) = [String.ofList (kept w)] := by
    rw [keyWords, String.toList_ofList, hkept.words_eq, List.map_singleton]
  have hall : (keyWords (String.ofList (kept w))).all isLanguageName = true := by
    rw [hwords, List.all_cons, isLanguageName, hknown]
    rfl
  simp only [takePlace, takeName_kept hw hkept hm, Option.bind_eq_bind, Option.bind_some, hall, if_true, ite_self]

/-- Whether a character can stand in the name of a place. -/
def InPlace (c : Char) : Prop := isLetterAnyCase c = true ∨ c = '\'' ∨ c = '-' ∨ isSpace c = true

/-- What is captured for a place: after white space, and with a letter first. -/
structure AfterSpace (text before g : List Char) (key : String) : Prop where
  space : ∀ c ∈ before.getLast?, isSpace c = true
  exists_rest : ∃ r, text = before ++ (g ++ r)
  first : ∃ c y, g = c :: y ∧ isLetterAnyCase c = true
  inPlace : ∀ c ∈ g, InPlace c
  taken : ∃ m, m.captured? 1 = some g ∧ takePlace m = some key

theorem matchesOnly_capitalWord : capitalWord.MatchesOnly InPlace := by
  have hletter {c : Char} (hc : isLetter c = true) : InPlace c := .inl (letterAnyCase_of_letter hc)
  have hmark (c : Char) (hc : (isLetter c || c == '\'' || c == '-') = true) : InPlace c := by
    simp only [Bool.or_eq_true, beq_iff_eq] at hc
    rcases hc with (hc | hc) | hc
    · exact hletter hc
    · exact .inr (.inl hc)
    · exact .inr (.inr (.inl hc))
  exact ⟨fun c hc => hletter (letter_of_capital hc), hmark, hmark⟩

theorem matchesOnly_spaces : spaces.MatchesOnly InPlace := by
  have hspace (c : Char) (hc : isSpace c = true) : InPlace c := .inr (.inr (.inr hc))
  exact ⟨hspace, hspace⟩

/-- A name up to the end of its clause, or words with capital letters. -/
theorem placePhrases_captures {ph : Phrase String} (hph : ph ∈ placePhrases) {before : List Char}
    (h : CapturesAt 1 before g ph.pattern l x r) : (∀ c ∈ before.getLast?, isSpace c = true) ∧
      (∃ c y, g = c :: y ∧ isLetterAnyCase c = true) ∧ ∀ c ∈ g, InPlace c := by
  simp only [placePhrases, List.mem_cons, List.not_mem_nil, or_false] at hph
  rcases hph with rfl | rfl
  · obtain ⟨_, _, -, -, h⟩ := capturesAt_later rfl h
    obtain ⟨_, _, -, -, h⟩ := capturesAt_later rfl h
    obtain ⟨_, _, -, -, h⟩ := capturesAt_later rfl h
    obtain ⟨_, _, -, -, h⟩ := capturesAt_later rfl h
    obtain ⟨s, _, -, hspaces, h⟩ := capturesAt_later rfl h
    obtain ⟨_, _, -, h, -⟩ := capturesAt_first rfl h
    obtain ⟨rfl, -, hfits⟩ := capturesAt_capture rfl h
    obtain ⟨c, y, rfl, hc, hy, -⟩ := fits_one_then.mp hfits
    refine ⟨(fits_spaces.mp hspaces).1.left _, ⟨c, y, rfl, hc⟩, List.forall_mem_cons.mpr ⟨.inl hc, fun d hd => ?_⟩⟩
    have hheld := hy d hd
    simp only [Bool.or_eq_true, beq_iff_eq] at hheld
    rcases hheld with ((hletter | hquote) | hhyphen) | rfl
    · exact .inl hletter
    · exact .inr (.inl hquote)
    · exact .inr (.inr (.inl hhyphen))
    · exact .inr (.inr (.inr rfl))
  · obtain ⟨_, _, -, -, h⟩ := capturesAt_later rfl h
    obtain ⟨_, _, -, -, h⟩ := capturesAt_later rfl h
    obtain ⟨s, _, -, hspaces, h⟩ := capturesAt_later rfl h
    obtain ⟨rfl, -, hfits⟩ := capturesAt_capture rfl h
    obtain ⟨c, y, hg, hc⟩ := first_of_capitals hfits
    refine ⟨(fits_spaces.mp hspaces).1.left _, ⟨c, y, hg, letterAnyCase_of_letter (letter_of_capital hc)⟩, ?_⟩
    exact hfits.forall_mem ⟨matchesOnly_capitalWord, matchesOnly_spaces, matchesOnly_capitalWord⟩

theorem afterSpace_of_takenAt (h : TakenAt placePhrases text name key l g) : AfterSpace text l g key := by
  obtain ⟨hphrases, -, -, hfinds, htext, -, hcaptured, hat⟩ := h
  rename_i earlier later ph l₀ x r cs
  have hph : ph ∈ placePhrases := by simp [hphrases]
  obtain ⟨hspace, hfirst, hin⟩ := placePhrases_captures hph hat
  obtain ⟨u, v, rfl, rfl⟩ := hat.stands
  have htake := hfinds.take
  rw [take_placePhrases hph] at htake
  exact ⟨hspace, ⟨v ++ r, by simp [htext]⟩, hfirst, hin, _, hcaptured, htake⟩

/-! ### Both -/

/-- A part that starts after white space and before the end of a word and the white space after it takes in the word. -/
theorem takes_in {l k i s u : List Char} (hi : IsWord i) (hs : IsGap s) (h : k ++ (i ++ s) = l ++ u)
    (hl : ∀ c ∈ l.getLast?, isSpace c = true) (hu : ∃ c y, u = c :: y ∧ isSpace c = false) :
    ∃ v, k = l ++ v ∧ u = v ++ (i ++ s) := by
  rcases List.append_eq_append_iff.mp h with ⟨a, rfl, ha⟩ | ⟨v, rfl, rfl⟩
  · rcases List.append_eq_append_iff.mp ha with ⟨b, rfl, rfl⟩ | ⟨b, rfl, rfl⟩
    · obtain ⟨c, y, rfl, hc⟩ := hu
      rw [hs.space c (by simp)] at hc
      cases hc
    · -- A part of the word before would end with white space.
      cases a using List.reverseRecOn with
      | nil => exact ⟨[], by simp, rfl⟩
      | append_singleton a c =>
        have hsolid := hi.solid c (by simp)
        rw [hl c (by simp)] at hsolid
        cases hsolid
  · exact ⟨v, rfl, rfl⟩

/-- A place that begins with a word for a language goes on after it, with an apostrophe or white space. -/
theorem goes_on {v : List Char} (hlanguage : AfterIn text l w code) (hplace : AfterSpace text l (w ++ v) key) :
    ∃ c v', v = c :: v' ∧ (c = '\'' ∨ isSpace c = true) := by
  cases v with
  | nil =>
    obtain ⟨m, hcaptured, htake⟩ := hplace.taken
    rw [List.append_nil] at hcaptured
    rw [takePlace_language hlanguage.word hlanguage.code hcaptured] at htake
    cases htake
  | cons c v =>
    refine ⟨c, v, rfl, ?_⟩
    obtain ⟨r, hr, hend⟩ := hlanguage.exists_rest
    obtain ⟨r', hr'⟩ := hplace.exists_rest
    have hnext : r = c :: v ++ r' := by
      rw [hr, List.append_assoc] at hr'
      exact List.append_cancel_left (List.append_cancel_left hr')
    -- The word is all of a run of letters and hyphens.
    obtain ⟨hletter, hhyphen⟩ := hend c (by rw [hnext]; rfl)
    rcases hplace.inPlace c (by simp) with h | h | h | h
    · rw [hletter] at h
      cases h
    · exact .inl h
    · exact absurd h hhyphen
    · exact .inr h

/-- A place includes a word for a language that stands after in, just if it begins with the word and goes on with an
apostrophe or white space, or if it takes in the word in as well. -/
theorem includes_iff {before : List Char} (hlanguage : AfterIn text before w code) (hplace : AfterSpace text l g key) :
    Includes l g before w ↔
      (l = before ∧ ∃ c v, g = w ++ c :: v ∧ (c = '\'' ∨ isSpace c = true)) ∨
      ∃ u i s v, Reads "in" i ∧ IsGap s ∧ before = l ++ (u ++ (i ++ s)) ∧ g = u ++ (i ++ (s ++ (w ++ v))) := by
  constructor
  · intro ⟨u, v, hbefore, hg⟩
    subst hg
    cases u with
    | nil =>
      obtain rfl : before = l := by rw [hbefore, List.append_nil]
      obtain ⟨c, v', rfl, hc⟩ := goes_on hlanguage hplace
      exact .inl ⟨rfl, c, v', rfl, hc⟩
    | cons d u =>
      obtain ⟨k, i, s, hsplit, hreads, hgap⟩ := hlanguage.exists_in
      obtain ⟨c, y, hfirst, hc⟩ := hplace.first
      obtain rfl : d = c := (List.cons.inj hfirst).1
      have hword : IsWord i := isWord_of_reads (by decide) hreads
      obtain ⟨u', -, hu⟩ := takes_in hword hgap (hsplit.symm.trans hbefore) hplace.space
        ⟨d, u, rfl, isSpace_of_letterAnyCase hc⟩
      exact .inr ⟨u', i, s, v, hreads, hgap, by rw [hbefore, hu], by simp [hu]⟩
  · intro h
    rcases h with ⟨rfl, c, v, hg, -⟩ | ⟨u, i, s, v, -, -, hbefore, hg⟩
    · exact ⟨[], c :: v, (List.append_nil l).symm, hg⟩
    · exact ⟨u ++ (i ++ s), v, hbefore, by simp [hg]⟩

/-! ### Plans -/

theorem isSome_captured {s : String} (h : group 1 m = some s) : (m.captured? 1).isSome = true := by
  obtain ⟨y, hy, -⟩ := group_eq_some h
  rw [hy]
  rfl

/-- Languages and places are taken from what is captured. -/
theorem captured_languagePhrases : ∀ ph ∈ languagePhrases, ∀ m key, ph.take m = some key →
    (m.captured? 1).isSome = true := by
  intro ph hph m key htake
  rcases take_languagePhrases hph with hany | hknown
  · rw [hany] at htake
    obtain ⟨s, hs, -⟩ := Option.map_eq_some_iff.mp htake
    exact isSome_captured hs
  · rw [hknown] at htake
    obtain ⟨s, hs, -⟩ := Option.bind_eq_some_iff.mp htake
    exact isSome_captured hs

theorem captured_placePhrases : ∀ ph ∈ placePhrases, ∀ m key, ph.take m = some key →
    (m.captured? 1).isSome = true := by
  intro ph hph m key htake
  rw [take_placePhrases hph] at htake
  obtain ⟨s, hs, -⟩ := Option.bind_eq_some_iff.mp (takePlace_eq_some htake).1
  exact isSome_captured hs

/-- What is found for a field of names is in the plan. -/
theorem mem_filters {question family : String} {field : Field} (hfield : field ∈ families) (hyear : field ≠ .year)
    (hkey : Filter.Trimmed key)
    (hfound : found? question.toList field = finding? family name (Filter.equals? field key)) (limit : Option Nat) :
    ⟨field, .equals, .text key, false, none, none⟩ ∈ (compile question limit).filters := by
  rw [finding?_key hyear hkey] at hfound
  rw [filters_eq]
  exact List.mem_map.mpr ⟨_, List.mem_filterMap.mpr ⟨field, hfield, hfound⟩, rfl⟩

theorem language_mem_filters {question : String}
    (h : firstPhrase languagePhrases question.toList = some (name, key)) (limit : Option Nat) :
    ⟨.language, .equals, .text key, false, none, none⟩ ∈ (compile question limit).filters := by
  have hfound : found? question.toList .language = finding? "language" name (Filter.equals? .language key) := by
    simp only [found?, language?, h, Option.bind_eq_bind, Option.bind_some]
  exact mem_filters (by decide) (by decide) (language_taken h).2 hfound limit

theorem place_mem_filters {question : String} (h : firstPhrase placePhrases question.toList = some (name, key))
    (limit : Option Nat) : ⟨.place, .equals, .text key, false, none, none⟩ ∈ (compile question limit).filters := by
  have hfound : found? question.toList .place = finding? "place" name (Filter.equals? .place key) := by
    simp only [found?, place?, h, Option.bind_eq_bind, Option.bind_some]
  obtain ⟨l, g, htaken⟩ := exists_takenAt h captured_placePhrases
  obtain ⟨m, -, htake⟩ := (afterSpace_of_takenAt htaken).taken
  exact mem_filters (by decide) (by decide) (takeName_eq_some (takePlace_eq_some htake).1).2 hfound limit

/-- If a question names a language by a word after in and names a place, the plan has a filter for each, and each is
made from a part of the question. The place includes the word in two cases and no other: it begins with the word and
goes on with an apostrophe or white space after it, or it takes in the word in before it as well. So a place never is
the word alone. -/
theorem includes_language_iff {question : String} (hlanguage : phraseFor? question.toList .language = some "known_in")
    (hplace : phraseFor? question.toList .place = some name) :
    ∃ code key,
      (∀ limit, ⟨.language, .equals, .text code, false, none, none⟩ ∈ (compile question limit).filters ∧
        ⟨.place, .equals, .text key, false, none, none⟩ ∈ (compile question limit).filters) ∧
      (∃ before w, TakenAt languagePhrases question.toList "known_in" code before w) ∧
      (∃ l g, TakenAt placePhrases question.toList name key l g) ∧
      ∀ before w l g, TakenAt languagePhrases question.toList "known_in" code before w →
        TakenAt placePhrases question.toList name key l g →
        (Includes l g before w ↔
          (l = before ∧ ∃ c v, g = w ++ c :: v ∧ (c = '\'' ∨ isSpace c = true)) ∨
          ∃ u i s v, Reads "in" i ∧ IsGap s ∧ before = l ++ (u ++ (i ++ s)) ∧ g = u ++ (i ++ (s ++ (w ++ v)))) := by
  obtain ⟨⟨_, code⟩, hcode, rfl⟩ := Option.map_eq_some_iff.mp hlanguage
  obtain ⟨⟨_, key⟩, hkey, rfl⟩ := Option.map_eq_some_iff.mp hplace
  refine ⟨code, key, fun limit => ⟨language_mem_filters hcode limit, place_mem_filters hkey limit⟩,
    exists_takenAt hcode captured_languagePhrases, exists_takenAt hkey captured_placePhrases, ?_⟩
  intro before w l g hw hg
  exact includes_iff (afterIn_of_takenAt hw) (afterSpace_of_takenAt hg)

/-- In a question for books in Latin America, the language is taken from the word Latin and the place from the name. -/
theorem takenAt_latinAmerica :
    TakenAt languagePhrases "books in Latin America".toList "known_in" "lat" "books in ".toList "Latin".toList ∧
    TakenAt placePhrases "books in Latin America".toList "capitalized_in" "latin america" "books in ".toList
      "Latin America".toList := by
  have hedge : Edge "books ".toList "in Latin America".toList := by
    rw [Edge]
    decide +kernel
  have hgap : IsGap " ".toList := isGap_space
  have hword (c : Char) (w l r : List Char) (hc : isCapital c = true) (hne : w ≠ [])
      (hw : (w.all fun d => isLetter d || d == '\'' || d == '-') = true) : capitalWord.Fits l (c :: w) r [] :=
    ⟨[c], w, [], [], rfl, rfl, ⟨⟨c, rfl, hc⟩, rfl⟩, fits_plus_one.mpr ⟨hne, List.all_eq_true.mp hw, rfl⟩⟩
  have hsecond : (seq spaces capitalWord).Fits "books in Latin".toList " America".toList [] [] :=
    ⟨" ".toList, "America".toList, [], [], rfl, rfl, fits_spaces.mpr ⟨hgap, rfl⟩,
      hword 'A' "merica".toList _ _ (by decide +kernel) (by decide) (by decide +kernel)⟩
  have hwords : (seq capitalWord (star (seq spaces capitalWord))).Fits "books in ".toList "Latin America".toList
      [] [] :=
    ⟨"Latin".toList, " America".toList, [], [], rfl, rfl,
      hword 'L' "atin".toList _ _ (by decide +kernel) (by decide) (by decide +kernel),
      .more (y := []) (by decide) hsecond (.none _ _)⟩
  have hlanguage : CapturesAt 1 "books in ".toList "Latin".toList languagePhrases[2].pattern "books ".toList
      "in Latin".toList " America".toList :=
    capturesAt_after (l := "books ".toList) (i := "in".toList) (s := " ".toList) hedge
      (fits_word.mpr ⟨by decide, rfl⟩) hgap
      (fits_one_then.mpr ⟨'L', "atin".toList, rfl, by decide +kernel, List.all_eq_true.mp (by decide +kernel), rfl⟩)
  have hplace : CapturesAt 1 "books in ".toList "Latin America".toList placePhrases[1].pattern "books ".toList
      "in Latin America".toList [] :=
    capturesAt_after (l := "books ".toList) (i := "in".toList) (s := " ".toList) hedge
      (fits_plainIn.mpr ⟨.inl rfl, rfl⟩) hgap hwords
  have hlat : FindsBy languagePhrases[2] "books in Latin America".toList
      (.between ("books ".toList ++ "in Latin".toList) " America".toList [(1, "Latin".toList)]) "lat" :=
    ⟨⟨[], [], by decide +kernel, List.forall_mem_nil _⟩, by decide +kernel⟩
  have hlatinAmerica : FindsBy placePhrases[1] "books in Latin America".toList
      (.between ("books ".toList ++ "in Latin America".toList) [] [(1, "Latin America".toList)]) "latin america" :=
    ⟨⟨[], [], by decide +kernel, List.forall_mem_nil _⟩, by decide +kernel⟩
  constructor
  · exact .intro (show languagePhrases = languagePhrases.take 2 ++ _ :: _ from rfl) (by decide +kernel) rfl hlat rfl
      (by decide +kernel) rfl hlanguage
  · exact .intro (show placePhrases = placePhrases.take 1 ++ _ :: _ from rfl) (by decide +kernel) rfl hlatinAmerica rfl
      (by decide +kernel) rfl hplace

/-- In a question for books in Latin America both are found, each in its part of the question. -/
theorem includes_language_iff_america : ∃ code key,
    (⟨.language, .equals, .text code, false, none, none⟩ ∈ (compile "books in Latin America" none).filters ∧
      ⟨.place, .equals, .text key, false, none, none⟩ ∈ (compile "books in Latin America" none).filters) ∧
    (∃ before w, TakenAt languagePhrases "books in Latin America".toList "known_in" code before w) ∧
    ∃ l g, TakenAt placePhrases "books in Latin America".toList "capitalized_in" key l g := by
  obtain ⟨hlanguage, hplace⟩ := takenAt_latinAmerica
  have hphrase : phraseFor? "books in Latin America".toList .language = some "known_in" := by
    rw [phraseFor?, hlanguage.firstPhrase_eq, Option.map_some]
  have hphrase' : phraseFor? "books in Latin America".toList .place = some "capitalized_in" := by
    rw [phraseFor?, hplace.firstPhrase_eq, Option.map_some]
  obtain ⟨code, key, hfilters, hfrom, hfrom', -⟩ := includes_language_iff hphrase hphrase'
  exact ⟨code, key, hfilters none, hfrom, hfrom'⟩

/-- In a question for books in Latin America, the word Latin is taken for the language and is a part of the place. -/
theorem includes_latinAmerica :
    (⟨.language, .equals, .text "lat", false, none, none⟩ ∈ (compile "books in Latin America" none).filters ∧
      ⟨.place, .equals, .text "latin america", false, none, none⟩ ∈ (compile "books in Latin America" none).filters) ∧
    TakenAt languagePhrases "books in Latin America".toList "known_in" "lat" "books in ".toList "Latin".toList ∧
    TakenAt placePhrases "books in Latin America".toList "capitalized_in" "latin america" "books in ".toList
      "Latin America".toList ∧
    Includes "books in ".toList "Latin America".toList "books in ".toList "Latin".toList := by
  obtain ⟨hlanguage, hplace⟩ := takenAt_latinAmerica
  have hfilters := And.intro (language_mem_filters hlanguage.firstPhrase_eq none)
    (place_mem_filters hplace.firstPhrase_eq none)
  exact ⟨hfilters, hlanguage, hplace, [], " America".toList, rfl, rfl⟩

end Catalogue.Question
