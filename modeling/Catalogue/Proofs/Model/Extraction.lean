import Catalogue.Model.Answer
import Catalogue.Proofs.Json.Nesting
import Catalogue.Proofs.Text.Case

/-! The object in an answer. Balancing braces outside strings follows the tokens of a text
(`passes_stretch`), so it stops where the reader of an object does, whatever follows
(`closes_of_build`). An object is therefore found in prose that has no opening brace before it, and
what is found is an object that the answer holds from its first opening brace on
(`extraction_exact`). -/
namespace Catalogue.Model

open Json

/-! ### Balancing -/

/-- Balancing passes over a stretch of text, from one number of open objects to another. -/
def Passes (w : List Char) (m n : Nat) : Prop :=
  ∀ rest, balanced m .plain (w ++ rest) = (balanced n .plain rest).map (w ++ ·)

/-- A text up to the brace that closes the last of some open objects, whatever follows. -/
def Closes (n : Nat) (w : List Char) : Prop := ∀ rest, balanced n .plain (w ++ rest) = some w

theorem Passes.closes {w w' : List Char} {m n : Nat} (h : Passes w m n) (h' : Closes n w') : Closes m (w ++ w') := by
  intro rest
  rw [List.append_assoc, h, h']
  rfl

theorem passes_bland {w : List Char} (h : ∀ c ∈ w, Bland c) (n : Nat) : Passes w n n := by
  induction w with
  | nil => exact fun rest => by simp
  | cons c w ih =>
    obtain ⟨⟨hquote, hopen, hclose⟩, hrest⟩ := List.forall_mem_cons.mp h
    intro rest
    rw [List.cons_append, balanced, if_neg hquote, if_neg hopen, if_neg hclose, ih hrest, Option.map_map]
    rfl

/-- A string is passed over, whatever is in it. -/
theorem balanced_strung {w : List Char} (h : Strung w) (n : Nat) (rest : List Char) :
    balanced n .inString (w ++ rest) = (balanced n .plain rest).map (w ++ ·) := by
  induction h with
  | close => rfl
  | @char c w hquote hslash _ ih =>
    simp only [List.cons_append, balanced, if_neg hquote, if_neg hslash, ih, Option.map_map]
    rfl
  | @escape c w _ ih =>
    simp only [List.cons_append, balanced, if_true, ih, Option.map_map]
    rfl

/-- Balancing follows the tokens of a text while objects are open. -/
theorem passes_stretch {t : Token} {w : List Char} (h : Stretch t w) {m n : Nat} (hchanges : t.Changes m n)
    (hn : 0 < n) : Passes w m n := by
  cases h with
  | openObject =>
    obtain rfl : n = m + 1 := hchanges
    exact fun rest => rfl
  | closeObject =>
    obtain rfl : m = n + 1 := hchanges
    intro rest
    have hmore : ¬n + 1 ≤ 1 := by omega
    simp [balanced, hmore]
  | string content h =>
    obtain rfl : n = m := hchanges
    intro rest
    simp [balanced, balanced_strung h, Function.comp_def]
  | bland hopen hclose h =>
    obtain rfl : n = m := by cases t <;> first | exact hchanges | contradiction
    exact passes_bland h n

/-- Only the brace that closes the last open object leaves none open. -/
theorem closes_stretch {t : Token} {w : List Char} (h : Stretch t w) {m : Nat} (hchanges : t.Changes m 0)
    (hm : 0 < m) : Closes m w := by
  cases t with
  | closeObject =>
    obtain rfl : m = 1 := hchanges
    cases h with
    | closeObject => exact fun rest => rfl
    | bland _ hclose => contradiction
  | openObject => exact absurd hchanges (Nat.succ_ne_zero m).symm
  | _ => exact absurd hchanges hm.ne

theorem bland_blank {c : Char} (h : isBlank c = true) : Bland c := by
  refine ⟨?_, ?_, ?_⟩ <;> rintro rfl <;> exact absurd h (by decide)

variable {stage : Stage} {stack : List Frame} {d : Document}

/-- On the way to a tree without a fault, balancing stops where the outermost object ends, and after it there
is only white space. -/
theorem closes_of_build {s : List Char} (h : build stage stack (tokens s) = (d, false)) (hd : d.fault? = none)
    (hroot : isRootObject stage stack = true) (hopen : 0 < opened stage stack) :
    ∃ taken blank, s = taken ++ blank ∧ (∀ c ∈ blank, isBlank c = true) ∧ Closes (opened stage stack) taken ∧
      build stage stack (tokens taken) = (d, false) := by
  -- By induction on the length of the text: a token takes some of it.
  induction hlength : s.length using Nat.strong_induction_on generalizing s stage stack with
  | _ length ih =>
    subst hlength
    cases s with
    | nil =>
      obtain rfl : endFault stage stack = d := congrArg Prod.fst h
      obtain ⟨rfl, hstage⟩ := finished_of_endFault hd
      rw [hstage] at hopen
      cases hopen
    | cons c rest =>
      by_cases hblank : isBlank c = true
      · rw [tokens_blank hblank] at h
        obtain ⟨taken, blank, rfl, hblanks, hcloses, hbuild⟩ := ih _ (Nat.lt_succ_self _) h hroot hopen rfl
        have hpasses := passes_bland (List.forall_mem_singleton.mpr (bland_blank hblank)) (opened stage stack)
        refine ⟨c :: taken, blank, rfl, hblanks, hpasses.closes hcloses, ?_⟩
        rw [tokens_blank hblank, hbuild]
      · rw [Bool.not_eq_true] at hblank
        cases hscan : scan c rest with
        | mk t left =>
          rw [tokens_cons hblank hscan] at h
          obtain ⟨ht, stage', stack', hmove, hnext, hrest⟩ := next_of_build h hd
          obtain ⟨w, rfl, hstretch, htakes⟩ := stretch_of_scan hscan ht
          have hstep := step_of_move hmove
          have hstart : stage = .value → stack ≠ [] := by
            rintro rfl rfl
            cases hroot
          have hroot' : isRootObject stage' stack' = true := (hstep.isRootObject_eq hstart).trans hroot
          -- The first part of the rest that is taken, with the token before it.
          suffices htaken : ∃ taken blank, left = taken ++ blank ∧ (∀ c ∈ blank, isBlank c = true) ∧
              Closes (opened stage stack) (c :: w ++ taken) ∧ build stage' stack' (tokens taken) = (d, false) by
            obtain ⟨taken, blank, rfl, hblanks, hcloses, hbuild⟩ := htaken
            refine ⟨c :: w ++ taken, blank, by simp, hblanks, hcloses, ?_⟩
            rw [List.cons_append, tokens_cons hblank (htakes taken (List.prefix_append ..)),
              build_next _ hmove, hbuild]
          by_cases hfinal : opened stage' stack' = 0
          · obtain ⟨rfl, v, rfl⟩ := finished_of_opened hroot' hfinal
            have hnil := tokens_of_finished hrest
            rw [hnil] at hrest
            refine ⟨[], left, rfl, blank_of_tokens hnil, ?_, hrest⟩
            rw [List.append_nil]
            exact closes_stretch hstretch (hfinal ▸ hstep.changes) hopen
          · have hshorter : left.length < (c :: (w ++ left)).length := by
              rw [List.length_cons, List.length_append]
              omega
            have hlater := ih left.length hshorter hrest hroot' (Nat.pos_of_ne_zero hfinal) rfl
            obtain ⟨taken, blank, rfl, hblanks, hcloses, hbuild⟩ := hlater
            have hpasses := passes_stretch hstretch hstep.changes (Nat.pos_of_ne_zero hfinal)
            exact ⟨taken, blank, rfl, hblanks, hpasses.closes hcloses, hbuild⟩

/-! ### Texts of objects -/

theorem isObject_iff {v : Json} : isObject v = true ↔ ∃ es, v = .obj es := by
  cases v <;> simp [isObject]

/-- A text that is read as a value comes to a tree without a fault, which is that of an object if the value is. -/
theorem build_of_parse {s : String} {v : Json} (h : parse s = .ok v) :
    ∃ d : Document, build .value [] (tokens s.toList) = (d, false) ∧ readAny .text d = .ok v ∧ d.fault? = none ∧
      d.isObject = isObject v := by
  obtain ⟨d, hread, hv⟩ := parse_eq_ok.mp h
  have hsound := read_sound s.toList
  rw [hread] at hsound
  obtain ⟨hfault, hobject⟩ := of_readAny hsound hv
  exact ⟨d, hread, hv, hfault, Bool.eq_iff_iff.mpr (hobject.trans isObject_iff.symm)⟩

/-- What begins with a brace is read as an object or not at all. -/
theorem isObject_of_parse {s : List Char} {v : Json} (h : parse (String.ofList ('\x7b' :: s)) = .ok v) :
    isObject v = true := by
  obtain ⟨d, hbuild, -, hfault, hobject⟩ := build_of_parse h
  have hmove : move .value [] .openObject = .next .firstKey [] := rfl
  rw [String.toList_ofList, tokens_openObject, build_next _ hmove] at hbuild
  rw [← hobject]
  exact isRootObject_of_build hbuild hfault nofun

/-- The text of an object is white space, the object from brace to brace, and white space. -/
theorem closes_of_parse {s : String} {v : Json} (h : parse s = .ok v) (hv : isObject v = true) :
    ∃ before taken after, s.toList = before ++ '\x7b' :: taken ++ after ∧ (∀ c ∈ before, isBlank c = true) ∧
      (∀ c ∈ after, isBlank c = true) ∧ Closes 0 ('\x7b' :: taken) ∧
      parse (String.ofList ('\x7b' :: taken)) = .ok v := by
  obtain ⟨d, hbuild, hread, hfault, hobject⟩ := build_of_parse h
  rw [hv] at hobject
  have hblanks : ∀ c ∈ s.toList.takeWhile isBlank, isBlank c = true := fun c hc => List.mem_takeWhile_imp hc
  have hsplit : s.toList = s.toList.takeWhile isBlank ++ s.toList.dropWhile isBlank :=
    List.takeWhile_append_dropWhile.symm
  rw [hsplit, tokens_blanks hblanks] at hbuild
  cases hrest : s.toList.dropWhile isBlank with
  | nil =>
    rw [hrest] at hbuild
    cases hbuild
    cases hobject
  | cons c rest =>
    have hblank : isBlank c = false := by
      have hhead := List.head?_dropWhile_not isBlank s.toList
      rwa [hrest] at hhead
    rw [hrest] at hbuild hsplit
    cases hscan : scan c rest with
    | mk t left =>
      rw [tokens_cons hblank hscan] at hbuild
      obtain ⟨ht, stage, stack, hmove, hnext, hbuild⟩ := next_of_build hbuild hfault
      have hroot := (isRootObject_of_build hbuild hfault hnext).symm.trans hobject
      obtain ⟨w, rfl, hstretch, -⟩ := stretch_of_scan hscan ht
      have hstarts : t = .openObject ∧ stage = .firstKey ∧ stack = [] := by
        cases step_of_move hmove with
        | value _ hstarts => cases hstarts <;> first | exact ⟨rfl, rfl, rfl⟩ | cases hroot
      obtain ⟨rfl, rfl, rfl⟩ := hstarts
      obtain ⟨rfl, rfl⟩ : c = '\x7b' ∧ w = [] := by
        cases hstretch with
        | openObject => exact ⟨rfl, rfl⟩
        | bland hopen => exact absurd rfl hopen
      obtain ⟨taken, after, rfl, hafter, hcloses, htaken⟩ := closes_of_build hbuild hfault hroot Nat.one_pos
      refine ⟨_, taken, after, hsplit.trans (by simp), hblanks, hafter, ?_, parse_eq_ok.mpr ⟨d, ?_, hread⟩⟩
      · have hpasses := passes_stretch hstretch (show Token.Changes .openObject 0 1 from rfl) Nat.one_pos
        exact hpasses.closes hcloses
      · rw [String.toList_ofList, Json.read, tokens_openObject, build_next _ hmove, htaken]

/-! ### Answers -/

/-- What balancing finds begins the text, ends with a brace, and is found whatever follows. -/
theorem of_balanced {n : Nat} {state : ScanState} {s w : List Char} (h : balanced n state s = some w) :
    (∃ rest, s = w ++ rest) ∧ w.getLast? = some '\x7d' ∧ ∀ rest, balanced n state (w ++ rest) = some w := by
  induction s generalizing n state w with
  | nil => cases h
  | cons c s ih =>
    -- All branches but that of the last brace go on with the rest of the text.
    have hon {n' : Nat} {state' : ScanState}
        (hbalanced : ∀ rest, balanced n state (c :: rest) = (balanced n' state' rest).map (c :: ·)) :
        (∃ rest, c :: s = w ++ rest) ∧ w.getLast? = some '\x7d' ∧ ∀ rest, balanced n state (w ++ rest) = some w := by
      rw [hbalanced] at h
      obtain ⟨w, hw, rfl⟩ := Option.map_eq_some_iff.mp h
      obtain ⟨⟨rest, rfl⟩, hlast, hfound⟩ := ih hw
      refine ⟨⟨rest, rfl⟩, by rw [List.getLast?_cons, hlast]; rfl, fun rest => ?_⟩
      rw [List.cons_append, hbalanced, hfound]
      rfl
    cases state with
    | escaped => exact hon fun rest => rfl
    | inString => exact hon fun rest => rfl
    | plain =>
      by_cases hquote : c = '"'
      · exact hon fun rest => by rw [balanced, if_pos hquote]
      by_cases hopen : c = '\x7b'
      · exact hon fun rest => by rw [balanced, if_neg hquote, if_pos hopen]
      by_cases hclose : c = '\x7d'
      · by_cases hdepth : n ≤ 1
        · have hfound (rest : List Char) : balanced n .plain (c :: rest) = some [c] := by
            rw [balanced, if_neg hquote, if_neg hopen, if_pos hclose, if_pos hdepth]
          rw [hfound] at h
          cases h
          exact ⟨⟨s, rfl⟩, congrArg some hclose, hfound⟩
        · exact hon fun rest => by rw [balanced, if_neg hquote, if_neg hopen, if_pos hclose, if_neg hdepth]
      · exact hon fun rest => by rw [balanced, if_neg hquote, if_neg hopen, if_neg hclose]

/-- The answer holds an object from its first opening brace on. -/
def Holds (answer : List Char) (v : Json) : Prop :=
  ∃ before taken after, answer = before ++ '\x7b' :: taken ++ after ∧ '\x7b' ∉ before ∧ Closes 0 ('\x7b' :: taken) ∧
    parse (String.ofList ('\x7b' :: taken)) = .ok v

/-- The object is what balancing finds from the first opening brace on. -/
theorem holds_iff {answer : List Char} {v : Json} :
    Holds answer v ↔ ∃ object, balanced 0 .plain (answer.dropWhile (· ≠ '\x7b')) = some object ∧
      parse (String.ofList object) = .ok v := by
  constructor
  · rintro ⟨before, taken, after, rfl, hbefore, hcloses, hv⟩
    have hdrop : (before ++ '\x7b' :: taken ++ after).dropWhile (· ≠ '\x7b') = '\x7b' :: taken ++ after := by
      rw [List.append_assoc, List.dropWhile_append_of_pos fun c hc => ?_]
      · exact List.dropWhile_cons_of_neg (by simp)
      · simpa using fun heq : c = '\x7b' => hbefore (heq ▸ hc)
    exact ⟨_, hdrop ▸ hcloses after, hv⟩
  · rintro ⟨object, hobject, hv⟩
    obtain ⟨⟨after, hafter⟩, -, hfound⟩ := of_balanced hobject
    cases hrest : answer.dropWhile (· ≠ '\x7b') with
    | nil =>
      rw [hrest] at hobject
      cases hobject
    | cons c rest =>
      have hc : c = '\x7b' := by
        have hhead := List.head?_dropWhile_not (· ≠ '\x7b') answer
        rw [hrest] at hhead
        simpa using hhead
      subst hc
      cases object with
      | nil => cases hfound []
      | cons d taken =>
        rw [hrest, List.cons_append] at hafter
        obtain ⟨rfl, rfl⟩ := List.cons.inj hafter
        refine ⟨answer.takeWhile (· ≠ '\x7b'), taken, after, ?_, ?_, hfound, hv⟩
        · have hsplit := List.takeWhile_append_dropWhile (p := (· ≠ '\x7b')) (l := answer)
          rw [hrest] at hsplit
          rw [List.append_assoc]
          exact hsplit.symm
        · intro hmem
          have := List.mem_takeWhile_imp hmem
          simp at this

/-- An answer holds one such object at most. -/
theorem Holds.unique {answer : List Char} {v w : Json} (hv : Holds answer v) (hw : Holds answer w) : v = w := by
  obtain ⟨object, hobject, hv⟩ := holds_iff.mp hv
  obtain ⟨object', hobject', hw⟩ := holds_iff.mp hw
  cases hobject.symm.trans hobject'
  cases hv.symm.trans hw
  rfl

/-- A trimmed text stands in the text between white space. -/
theorem trim_stands (s : List Char) : ∃ before after, s = before ++ Text.trimEnd (Text.trimStart s) ++ after ∧
    ∀ c ∈ before, Text.isSpace c = true := by
  have hprefix : Text.trimEnd (Text.trimStart s) <+: (Text.trimStart s).reverse.reverse :=
    List.reverse_prefix.mpr (List.dropWhile_suffix _)
  rw [List.reverse_reverse] at hprefix
  obtain ⟨after, hafter⟩ := hprefix
  refine ⟨s.takeWhile Text.isSpace, after, ?_, fun c hc => List.mem_takeWhile_imp hc⟩
  rw [List.append_assoc, hafter]
  exact List.takeWhile_append_dropWhile.symm

/-- White space at the ends of an answer does not matter. -/
theorem holds_trim {answer : String} {v : Json} : Holds (Text.trim answer).toList v ↔ Holds answer.toList v := by
  rw [Text.trim, String.toList_ofList]
  constructor
  · rintro ⟨before, taken, after, htrim, hbefore, hobject⟩
    obtain ⟨spaces, spaces', hanswer, hspaces⟩ := trim_stands answer.toList
    rw [htrim] at hanswer
    refine ⟨spaces ++ before, taken, after ++ spaces', hanswer.trans (by simp), ?_, hobject⟩
    exact List.not_mem_append (fun h => absurd (hspaces _ h) (by decide)) hbefore
  · rintro ⟨before, taken, after, hanswer, hbefore, hcloses, hv⟩
    have hbare : Text.Bare ('\x7b' :: taken) := by
      obtain ⟨-, hlast, -⟩ := of_balanced (hcloses [])
      refine ⟨?_, ?_⟩
      · rintro c ⟨⟩
        rfl
      · rw [hlast]
        rintro c ⟨⟩
        rfl
    refine ⟨Text.trimStart before, taken, Text.trimEnd after, ?_, ?_, hcloses, hv⟩
    · rw [hanswer, Text.trim_append (List.cons_ne_nil _ _) hbare]
    · exact fun h => hbefore ((List.dropWhile_sublist _).subset h)

/-- The text of an object holds it, whatever stands around it, if no opening brace stands before it. -/
theorem holds_of_parse {s : String} {v : Json} (h : parse s = .ok v) (hv : isObject v = true) {before : List Char}
    (hbefore : '\x7b' ∉ before) (after : List Char) : Holds (before ++ s.toList ++ after) v := by
  obtain ⟨blanks, taken, blanks', hs, hblanks, -, hobject⟩ := closes_of_parse h hv
  refine ⟨before ++ blanks, taken, blanks' ++ after, by rw [hs]; simp, ?_, hobject⟩
  exact List.not_mem_append hbefore fun h => absurd (hblanks _ h) (by decide)

theorem holds_of_wholeObject {s : String} {v : Json} (h : wholeObject? s = some v) : Holds s.toList v := by
  unfold wholeObject? at h
  split at h
  · rename_i w hparse
    split at h
    · rename_i hobject
      cases h
      simpa using holds_of_parse hparse hobject (List.not_mem_nil (a := '\x7b')) []
    · cases h
  · cases h

/-- An object is extracted exactly if the answer holds it. -/
theorem extractObject_eq_ok {answer : String} {v : Json} :
    extractObject answer = .ok v ↔ Holds answer.toList v := by
  rw [← holds_trim]
  unfold extractObject
  cases hwhole : wholeObject? (Text.trim answer) with
  | some w =>
    have hw := holds_of_wholeObject hwhole
    simp only [hwhole, Except.ok.injEq]
    exact ⟨fun h => h ▸ hw, fun hv => hw.unique hv⟩
  | none =>
    rw [holds_iff]
    simp only [hwhole]
    split
    · rename_i hnil
      rw [hnil]
      exact ⟨nofun, nofun⟩
    · split
      · rename_i hnone
        rw [hnone]
        exact ⟨nofun, nofun⟩
      · rename_i object hobject
        rw [hobject]
        cases hparse : parse (String.ofList object) with
        | error e => simp [Except.mapError, hparse]
        | ok w => simp [Except.mapError, hparse]

/-- The text of an object is an answer that gives the object. -/
theorem extractObject_compact {es : Entries Json} (h : (Json.obj es).WellFormed)
    (hdepth : (Json.obj es).depth ≤ 127) : extractObject (Json.obj es).compact = .ok (.obj es) := by
  have hholds := holds_of_parse (parse_compact h hdepth) rfl (List.not_mem_nil (a := '\x7b')) []
  rw [List.nil_append, List.append_nil] at hholds
  exact extractObject_eq_ok.mpr hholds

/-- An object is extracted from any text around it, if no opening brace stands before it; and what is extracted
is an object that is read from a slice of the text that begins at its first opening brace. -/
theorem extraction_exact :
    (∀ (before text after : String) (v : Json), parse text = .ok v → isObject v = true → '\x7b' ∉ before.toList →
      extractObject (before ++ text ++ after) = .ok v) ∧
    ∀ (answer : String) (v : Json), extractObject answer = .ok v → isObject v = true ∧
      ∃ before slice after : String, answer = before ++ slice ++ after ∧ '\x7b' ∉ before.toList ∧
        slice.toList.head? = some '\x7b' ∧ parse slice = .ok v := by
  constructor
  · intro before text after v hparse hobject hbefore
    rw [extractObject_eq_ok, String.toList_append, String.toList_append]
    exact holds_of_parse hparse hobject hbefore after.toList
  · intro answer v h
    obtain ⟨before, taken, after, hanswer, hbefore, -, hparse⟩ := extractObject_eq_ok.mp h
    refine ⟨isObject_of_parse hparse, String.ofList before, _, String.ofList after, ?_, ?_, ?_, hparse⟩
    · rw [← String.toList_inj, hanswer]
      simp
    · rwa [String.toList_ofList]
    · rw [String.toList_ofList]
      rfl

/-- An object with a brace, quotes and a backslash in its text. -/
def braced : Json := .obj [("a", .str "\"\x7d\\")]

theorem wellFormed_braced : braced.WellFormed :=
  ⟨.obj (List.forall_mem_singleton.mpr (.str _)),
    .obj (List.pairwise_singleton _ _) (List.forall_mem_singleton.mpr (.str _))⟩

/-- The object is found in a fence, with another object after it. -/
theorem extraction_exact_fenced :
    extractObject ("Sure: ```json\n" ++ braced.compact ++ "\n``` or \x7b\"b\":1\x7d") = .ok braced ∧
      isObject braced = true := by
  have hfound := extraction_exact.1 "Sure: ```json\n" braced.compact "\n``` or \x7b\"b\":1\x7d" braced
    (parse_compact wellFormed_braced (by decide)) rfl (by decide)
  exact ⟨hfound, (extraction_exact.2 _ _ hfound).1⟩

end Catalogue.Model
