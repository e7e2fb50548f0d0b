import Catalogue.Proofs.Text.Case

/-! Words of texts. A text that is put together where white space stands has the words of its
parts (`words_append`), so what stands between two spaces is a word (`words_between`), and words
that are joined are the words of what they are joined to (`words_joinWords`). A match key is the
join of the keys of a text's words and is its own key (`matchKey_matchKey`). -/
namespace Catalogue.Text

/-- One or more characters, none of which is white space. -/
structure IsWord (w : List Char) : Prop where
  nonempty : w ≠ []
  solid : ∀ c ∈ w, isSpace c = false

instance (w : List Char) : Decidable (IsWord w) :=
  decidable_of_iff (w ≠ [] ∧ (w.all fun c => !isSpace c) = true)
    ⟨fun h => ⟨h.1, by simpa using h.2⟩, fun h => ⟨h.1, by simpa using h.2⟩⟩

/-! ### Splitting -/

theorem wordsFrom_append (before x : List Char) {y : List Char} (hy : ∀ c ∈ y.head?, isSpace c = true) :
    wordsFrom before (x ++ y) = wordsFrom before x ++ words y := by
  induction x generalizing before with
  | nil =>
    cases y with
    | nil => exact (List.append_nil _).symm
    | cons c y =>
      have hc : isSpace c = true := hy c rfl
      have hrest : words (c :: y) = wordsFrom [] y := by
        rw [words, wordsFrom, if_pos hc]
        rfl
      simp only [List.nil_append, hrest, wordsFrom, hc, if_true]
      split <;> rfl
  | cons c x ih =>
    rw [List.cons_append, wordsFrom, wordsFrom]
    split
    · split
      · exact ih []
      · rw [ih [], List.cons_append]
    · exact ih (c :: before)

/-- A text that goes on with white space has the words of both parts. -/
theorem words_append (x : List Char) {y : List Char} (hy : ∀ c ∈ y.head?, isSpace c = true) :
    words (x ++ y) = words x ++ words y := wordsFrom_append [] x hy

theorem words_cons_space {c : Char} (hc : isSpace c = true) (y : List Char) : words (c :: y) = words y := by
  rw [words, wordsFrom, if_pos hc]
  rfl

/-- White space in front adds no words. -/
theorem words_space_append {s : List Char} (hs : ∀ c ∈ s, isSpace c = true) (y : List Char) :
    words (s ++ y) = words y := by
  induction s with
  | nil => rfl
  | cons c s ih =>
    obtain ⟨hc, hrest⟩ := List.forall_mem_cons.mp hs
    rw [List.cons_append, words_cons_space hc, ih hrest]

/-- A text that goes on after white space has the words of both parts. -/
theorem words_append' {x : List Char} (hx : ∀ c ∈ x.getLast?, isSpace c = true) (y : List Char) :
    words (x ++ y) = words x ++ words y := by
  rcases List.eq_nil_or_concat x with rfl | ⟨x, c, rfl⟩
  · rfl
  · have hc : isSpace c = true := hx c (by simp)
    rw [List.concat_eq_append, List.append_assoc, List.singleton_append,
      words_append x (y := c :: y) (by rintro d ⟨⟩; exact hc),
      words_append x (y := [c]) (by rintro d ⟨⟩; exact hc), words_cons_space hc, words_cons_space hc]
    simp [words, wordsFrom]

theorem wordsFrom_solid {w : List Char} (hw : ∀ c ∈ w, isSpace c = false) (before : List Char) :
    wordsFrom before w = if before = [] ∧ w = [] then [] else [before.reverse ++ w] := by
  induction w generalizing before with
  | nil => cases before <;> simp [wordsFrom]
  | cons c w ih =>
    obtain ⟨hc, hrest⟩ := List.forall_mem_cons.mp hw
    rw [wordsFrom, hc, if_neg Bool.false_ne_true, ih hrest]
    simp

theorem IsWord.words_eq {w : List Char} (h : IsWord w) : words w = [w] := by
  rw [words, wordsFrom_solid h.solid, if_neg fun hnil => h.nonempty hnil.2]
  rfl

/-- What stands between white space, or between white space and an end of the text, is a word. -/
theorem words_between {x w y : List Char} (hx : ∀ c ∈ x.getLast?, isSpace c = true) (hw : IsWord w)
    (hy : ∀ c ∈ y.head?, isSpace c = true) : words (x ++ w ++ y) = words x ++ w :: words y := by
  rw [words_append (x ++ w) hy, words_append' hx, hw.words_eq, List.append_assoc]
  rfl

theorem space_of_wordsFrom_nil {before s : List Char} (h : wordsFrom before s = []) :
    before = [] ∧ ∀ c ∈ s, isSpace c = true := by
  induction s generalizing before with
  | nil =>
    rw [wordsFrom] at h
    split at h
    · rename_i hbefore
      exact ⟨List.isEmpty_iff.mp hbefore, List.forall_mem_nil _⟩
    · cases h
  | cons c s ih =>
    rw [wordsFrom] at h
    split at h
    · rename_i hc
      split at h
      · rename_i hbefore
        exact ⟨List.isEmpty_iff.mp hbefore, List.forall_mem_cons.mpr ⟨hc, (ih h).2⟩⟩
      · cases h
    · cases (ih h).1

/-- A text without words is white space. -/
theorem space_of_words_nil {s : List Char} (h : words s = []) : ∀ c ∈ s, isSpace c = true :=
  (space_of_wordsFrom_nil h).2

theorem words_ne_nil {s : List Char} (hne : s ≠ []) (hlast : ∀ c ∈ s.getLast?, isSpace c = false) : words s ≠ [] := by
  intro hnil
  have hsolid := hlast (s.getLast hne) (List.getLast?_eq_some_getLast hne)
  rw [space_of_words_nil hnil _ (List.getLast_mem hne)] at hsolid
  cases hsolid

/-! ### Joining -/

theorem joinWords_single (w : List Char) : joinWords [w] = w := List.intercalate_singleton ..

theorem joinWords_cons {w : List Char} {ws : List (List Char)} (h : ws ≠ []) :
    joinWords (w :: ws) = w ++ ' ' :: joinWords ws := by
  cases ws with
  | nil => exact absurd rfl h
  | cons v ws =>
    rw [joinWords, List.intercalate_cons_cons, List.append_assoc]
    rfl

/-- Words that are joined begin with the first, up to a space. -/
theorem joinWords_first (w : List Char) (ws : List (List Char)) :
    ∃ y, joinWords (w :: ws) = w ++ y ∧ ∀ c ∈ y.head?, c = ' ' := by
  cases ws with
  | nil => exact ⟨[], by rw [joinWords_single, List.append_nil], nofun⟩
  | cons v ws => exact ⟨_, joinWords_cons (List.cons_ne_nil v ws), by rintro c ⟨⟩; rfl⟩

theorem joinWords_append {vs ws : List (List Char)} (hv : vs ≠ []) (hw : ws ≠ []) :
    joinWords (vs ++ ws) = joinWords vs ++ ' ' :: joinWords ws := by
  induction vs with
  | nil => exact absurd rfl hv
  | cons v vs ih =>
    cases vs with
    | nil =>
      rw [List.singleton_append, joinWords_cons hw, joinWords_single]
    | cons u vs =>
      have hne : (u :: vs) ++ ws ≠ [] := by simp
      rw [List.cons_append, joinWords_cons hne, ih (by simp), joinWords_cons (List.cons_ne_nil u vs),
        List.append_assoc]
      rfl

/-- The words of words that are joined. -/
theorem words_joinWords {ws : List (List Char)} (h : ∀ w ∈ ws, IsWord w) : words (joinWords ws) = ws := by
  induction ws with
  | nil => rfl
  | cons w ws ih =>
    obtain ⟨hw, hrest⟩ := List.forall_mem_cons.mp h
    cases ws with
    | nil =>
      rw [joinWords_single]
      exact hw.words_eq
    | cons v ws =>
      rw [joinWords_cons (List.cons_ne_nil v ws), words_append w (by rintro c ⟨⟩; rfl), hw.words_eq,
        words_cons_space rfl, ih hrest]
      rfl

theorem isWord_of_mem_wordsFrom {before s w : List Char} (hbefore : ∀ c ∈ before, isSpace c = false)
    (hw : w ∈ wordsFrom before s) : IsWord w := by
  induction s generalizing before with
  | nil =>
    rw [wordsFrom] at hw
    split at hw
    · cases hw
    · rename_i hne
      obtain rfl := List.mem_singleton.mp hw
      exact ⟨by simpa using hne, fun c hc => hbefore c (List.mem_reverse.mp hc)⟩
  | cons c s ih =>
    rw [wordsFrom] at hw
    split at hw
    · split at hw
      · exact ih (List.forall_mem_nil _) hw
      · rename_i hne
        rcases List.mem_cons.mp hw with rfl | hw
        · exact ⟨by simpa using hne, fun c hc => hbefore c (List.mem_reverse.mp hc)⟩
        · exact ih (List.forall_mem_nil _) hw
    · rename_i hc
      exact ih (List.forall_mem_cons.mpr ⟨by simpa using hc, hbefore⟩) hw

theorem isWord_of_mem_words {s w : List Char} (hw : w ∈ words s) : IsWord w :=
  isWord_of_mem_wordsFrom (List.forall_mem_nil _) hw

theorem exists_mem_wordsFrom {before s : List Char} {c : Char} (hc : isSpace c = false) (h : c ∈ before ∨ c ∈ s) :
    ∃ w ∈ wordsFrom before s, c ∈ w := by
  induction s generalizing before with
  | nil =>
    have hbefore := h.resolve_right List.not_mem_nil
    rw [wordsFrom, if_neg (by simpa using List.ne_nil_of_mem hbefore)]
    exact ⟨_, List.mem_singleton_self _, List.mem_reverse.mpr hbefore⟩
  | cons d s ih =>
    rw [wordsFrom]
    by_cases hd : isSpace d = true
    · rw [if_pos hd]
      rcases h with hbefore | hs
      · rw [if_neg (by simpa using List.ne_nil_of_mem hbefore)]
        exact ⟨_, List.mem_cons_self .., List.mem_reverse.mpr hbefore⟩
      · have hne : c ≠ d := fun heq => absurd (heq ▸ hd) (ne_true_of_eq_false hc)
        obtain ⟨w, hw, hcw⟩ := ih (.inr ((List.mem_cons.mp hs).resolve_left hne))
        split
        · exact ⟨w, hw, hcw⟩
        · exact ⟨w, List.mem_cons_of_mem _ hw, hcw⟩
    · rw [if_neg hd]
      refine ih ?_
      rcases h with hbefore | hs
      · exact .inl (List.mem_cons_of_mem _ hbefore)
      · rcases List.mem_cons.mp hs with rfl | hs
        · exact .inl (List.mem_cons_self ..)
        · exact .inr hs

/-- The words of a text have all its characters but white space. -/
theorem exists_mem_words {s : List Char} {c : Char} (hc : isSpace c = false) : (∃ w ∈ words s, c ∈ w) ↔ c ∈ s :=
  ⟨fun ⟨_, hw, hcw⟩ => (mem_of_mem_wordsFrom hw hcw).resolve_left List.not_mem_nil,
    fun h => exists_mem_wordsFrom hc (.inr h)⟩

theorem joinWords_ne_nil {ws : List (List Char)} (h : ∀ w ∈ ws, IsWord w) (hne : ws ≠ []) : joinWords ws ≠ [] := by
  intro hnil
  have hwords := words_joinWords h
  rw [hnil] at hwords
  exact hne hwords.symm

/-- Words that are joined begin and end with words. -/
theorem bare_joinWords {ws : List (List Char)} (h : ∀ w ∈ ws, IsWord w) : Bare (joinWords ws) := by
  have hword {w : List Char} (hw : IsWord w) : Bare w :=
    ⟨fun c hc => hw.solid c (List.mem_of_mem_head? hc), fun c hc => hw.solid c (List.mem_of_mem_getLast? hc)⟩
  induction ws with
  | nil => exact ⟨nofun, nofun⟩
  | cons w ws ih =>
    obtain ⟨hw, hrest⟩ := List.forall_mem_cons.mp h
    cases ws with
    | nil =>
      rw [joinWords_single]
      exact hword hw
    | cons v ws =>
      have hne : joinWords (v :: ws) ≠ [] := joinWords_ne_nil hrest (List.cons_ne_nil v ws)
      rw [joinWords_cons (List.cons_ne_nil v ws)]
      refine ⟨?_, ?_⟩
      · rw [List.head?_append_of_ne_nil _ hw.nonempty]
        exact (hword hw).first
      · rw [List.getLast?_append_of_ne_nil _ (List.cons_ne_nil _ _), List.getLast?_cons_of_ne_nil hne]
        exact (ih hrest).last

/-- What begins with a word after white space in words that are joined is joined from its words. -/
theorem eq_joinWords_of_suffix {vs : List (List Char)} (hvs : ∀ v ∈ vs, IsWord v) {x y : List Char}
    (h : joinWords vs = x ++ y) (hx : ∀ c ∈ x.getLast?, isSpace c = true) (hne : y ≠ [])
    (hy : ∀ c ∈ y.head?, isSpace c = false) : y = joinWords (words y) := by
  by_cases hstart : x = []
  · rw [hstart, List.nil_append] at h
    rw [← h, words_joinWords hvs]
  · induction vs generalizing x with
    | nil => exact absurd (List.append_eq_nil_iff.mp h.symm).2 hne
    | cons v vs ih =>
      obtain ⟨hv, hrest⟩ := List.forall_mem_cons.mp hvs
      -- The text before ends with white space, so it goes beyond the first word.
      have hbeyond {z : List Char} (hz : v = x ++ z) : False := by
        have hlast := hx (x.getLast hstart) (List.getLast?_eq_some_getLast hstart)
        rw [hv.solid _ (hz ▸ List.mem_append_left z (List.getLast_mem hstart))] at hlast
        cases hlast
      cases vs with
      | nil =>
        rw [joinWords_single] at h
        exact (hbeyond h).elim
      | cons u vs =>
        rw [joinWords_cons (List.cons_ne_nil u vs)] at h
        rcases List.append_eq_append_iff.mp h with ⟨z, rfl, hz⟩ | ⟨z, hz, -⟩
        · cases z with
          | nil =>
            obtain rfl : ' ' :: joinWords (u :: vs) = y := hz
            cases hy ' ' rfl
          | cons d z =>
            obtain ⟨rfl, hlater⟩ := List.cons_eq_cons.mp hz
            replace hlater : joinWords (u :: vs) = z ++ y := hlater
            by_cases hmore : z = []
            · rw [hmore, List.nil_append] at hlater
              rw [← hlater, words_joinWords hrest]
            · refine ih hrest hlater (fun c hc => hx c ?_) hmore
              rwa [List.getLast?_append_of_ne_nil _ (List.cons_ne_nil _ _), List.getLast?_cons_of_ne_nil hmore]
        · exact (hbeyond hz).elim

/-! ### Match keys -/

/-- What a match key keeps of the characters of a text. -/
def kept (s : List Char) : List Char := (s.flatMap lower).flatMap keyCharacters

theorem kept_append (s t : List Char) : kept (s ++ t) = kept s ++ kept t := by
  simp only [kept, List.flatMap_append]

theorem kept_cons (c : Char) (s : List Char) : kept (c :: s) = kept [c] ++ kept s := kept_append [c] s

/-- A character that is its own match key. -/
def KeyChar (c : Char) : Prop := kept [c] = [c]

instance (c : Char) : Decidable (KeyChar c) := inferInstanceAs (Decidable (kept [c] = [c]))

theorem keyChar_singles : KeyChar ' ' ∧ KeyChar 's' := by decide +kernel

theorem keyChar_space : KeyChar ' ' := keyChar_singles.1

theorem kept_eq {s : List Char} (h : ∀ c ∈ s, KeyChar c) : kept s = s := by
  induction s with
  | nil => rfl
  | cons c s ih =>
    obtain ⟨hc, hrest⟩ := List.forall_mem_cons.mp h
    rw [kept_cons, hc, ih hrest]
    rfl

/-- What is kept is kept again. -/
theorem keyChar_of_mem_kept {s : List Char} {d : Char} (h : d ∈ kept s) : KeyChar d := by
  obtain ⟨e, he, hd⟩ := List.mem_flatMap.mp h
  obtain ⟨c, -, he⟩ := List.mem_flatMap.mp he
  have hkept (hlower : Lower d) (hkey : keyCharacters d = [d]) : KeyChar d := by
    simp only [KeyChar, kept, List.flatMap_cons, List.flatMap_nil, List.append_nil, hlower.lower_eq, hkey]
  have hlower := lower_of_mem_lower he
  unfold keyCharacters at hd
  split at hd
  · simp only [List.mem_cons, List.not_mem_nil, or_false, or_self] at hd
    exact hd ▸ keyChar_singles.2
  split at hd
  · cases hd
  split at hd
  · rename_i hsharp hbracket hplain
    obtain rfl := List.mem_singleton.mp hd
    refine hkept hlower ?_
    rw [keyCharacters, if_neg hsharp, if_neg hbracket, if_pos hplain]
  split at hd
  · obtain rfl := List.mem_singleton.mp hd
    exact keyChar_space
  · cases hd

theorem keyChar_of_mem_matchKeyChars {s : List Char} {d : Char} (h : d ∈ matchKeyChars s) : KeyChar d := by
  rcases mem_joinWords h with rfl | ⟨w, hw, hd⟩
  · exact keyChar_space
  · exact keyChar_of_mem_kept ((mem_of_mem_wordsFrom hw hd).resolve_left List.not_mem_nil)

/-- A text whose characters are their own keys is its own key, if single spaces join its words. -/
theorem matchKeyChars_eq {s : List Char} (h : ∀ c ∈ s, KeyChar c) (hs : s = joinWords (words s)) :
    matchKeyChars s = s := by
  show joinWords (words (kept s)) = s
  rw [kept_eq h, ← hs]

theorem matchKeyChars_matchKeyChars (s : List Char) : matchKeyChars (matchKeyChars s) = matchKeyChars s := by
  have hkept : kept (matchKeyChars s) = matchKeyChars s := kept_eq fun _ => keyChar_of_mem_matchKeyChars
  have hwords : words (matchKeyChars s) = words (kept s) := words_joinWords fun _ => isWord_of_mem_words
  show joinWords (words (kept (matchKeyChars s))) = _
  rw [hkept, hwords]
  rfl

/-- A match key is its own match key. -/
theorem matchKey_matchKey (s : String) : matchKey (matchKey s) = matchKey s := by
  rw [matchKey, matchKey, String.toList_ofList, matchKeyChars_matchKeyChars]

/-- The match key of words of which something is kept. -/
theorem matchKeyChars_joinWords {ws : List (List Char)} (h : ∀ w ∈ ws, IsWord (kept w)) :
    matchKeyChars (joinWords ws) = joinWords (ws.map kept) := by
  have hkept : kept (joinWords ws) = joinWords (ws.map kept) := by
    clear h
    induction ws with
    | nil => rfl
    | cons w ws ih =>
      cases ws with
      | nil => rw [List.map_singleton, joinWords_single, joinWords_single]
      | cons v ws =>
        have hne : (v :: ws).map kept ≠ [] := List.cons_ne_nil _ _
        rw [joinWords_cons (List.cons_ne_nil v ws), kept_append, kept_cons ' ', keyChar_space, ih,
          List.map_cons (a := w), joinWords_cons hne]
        rfl
  have hwords : ∀ w ∈ ws.map kept, IsWord w := fun w hw => by
    obtain ⟨v, hv, rfl⟩ := List.mem_map.mp hw
    exact h v hv
  show joinWords (words (kept (joinWords ws))) = _
  rw [hkept, words_joinWords hwords]

end Catalogue.Text
