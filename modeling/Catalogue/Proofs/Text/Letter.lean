import Catalogue.Proofs.Text.Words
import Catalogue.Text.Property.Letter
import Catalogue.Text.Property.Word

/-! Letters of every script. They are word characters, and neither white space nor digits nor marks of
punctuation (`wordCharacter_of_letter`, `marks_of_letter`); of a word of letters a match key keeps a word,
in which there is no digit from zero to nine (`isWord_kept`, `of_mem_kept`). All this is read off the
tables, run by run. -/
namespace Catalogue.Text

/-! ### Runs -/

/-- The code points of a run as runs without gaps. -/
def CharRun.pieces (run : CharRun) : CharSet :=
  if run.step = 1 then [run]
  else ((List.range ((run.last - run.first) / run.step + 1)).map fun k =>
    (⟨run.first + k * run.step, run.first + k * run.step, 1⟩ : CharRun)).filter fun piece => piece.last ≤ run.last

/-- Whether another run has the bounds of this one within its own. -/
def CharRun.within (run other : CharRun) : Bool := Nat.ble other.first run.first && Nat.ble run.last other.last

/-- Whether the bounds of two runs have nothing in common. -/
def CharRun.apart (run other : CharRun) : Bool := Nat.blt run.last other.first || Nat.blt other.last run.first

/-- Whether every run of an ascending list is within one of another such list, found in so many steps. -/
def covers : Nat → CharSet → CharSet → Bool
  | 0, _, set => set.isEmpty
  | _ + 1, _, [] => true
  | _ + 1, [], _ :: _ => false
  | fuel + 1, wide :: rest, run :: set =>
    if run.within wide then covers fuel (wide :: rest) set else covers fuel rest (run :: set)

/-- Whether no run of an ascending list has a bound in common with a run of another such list, found in so many steps. -/
def separate : Nat → CharSet → CharSet → Bool
  | 0, _, _ => false
  | _ + 1, [], _ => true
  | _ + 1, _ :: _, [] => true
  | fuel + 1, run :: set, other :: rest =>
    if Nat.blt run.last other.first then separate fuel set (other :: rest)
    else Nat.blt other.last run.first && separate fuel (run :: set) rest

/-- Runs in the order of their first code points. -/
def CharSet.Ascending (set : CharSet) : Prop := List.IsChain (fun run next : CharRun => run.first ≤ next.first) set

/-- Two sets that have nothing in common, as their runs show. -/
structure CharSet.Apart (set other : CharSet) : Prop where
  left : CharSet.Ascending set
  right : CharSet.Ascending other
  separate : separate (set.length + other.length + 1) set other = true

instance (set other : CharSet) : Decidable (CharSet.Apart set other) :=
  have (s : CharSet) : Decidable (CharSet.Ascending s) := inferInstanceAs (Decidable (List.IsChain _ s))
  decidable_of_iff (CharSet.Ascending set ∧ CharSet.Ascending other ∧ separate (set.length + other.length + 1) set other = true)
    ⟨fun h => ⟨h.1, h.2.1, h.2.2⟩, fun h => ⟨h.left, h.right, h.separate⟩⟩

theorem CharRun.exists_piece {run : CharRun} {n : Nat} (h : run.holds n = true) :
    ∃ piece ∈ run.pieces, piece.first ≤ n ∧ n ≤ piece.last := by
  simp only [holds, Bool.and_eq_true, decide_eq_true_eq, beq_iff_eq] at h
  obtain ⟨⟨hfirst, hlast⟩, hstep⟩ := h
  unfold pieces
  split
  · exact ⟨run, List.mem_singleton_self _, hfirst, hlast⟩
  · obtain ⟨k, hk, rfl⟩ := exists_steps hfirst hlast hstep
    exact ⟨_, List.mem_filter.mpr ⟨List.mem_map.mpr ⟨k, List.mem_range.mpr hk, rfl⟩, decide_eq_true hlast⟩,
      le_rfl, le_rfl⟩

theorem CharRun.holds_of_piece {run piece : CharRun} (h : piece ∈ run.pieces) {n : Nat} (hlow : piece.first ≤ n)
    (hhigh : n ≤ piece.last) : run.holds n = true := by
  unfold pieces at h
  simp only [holds, Bool.and_eq_true, decide_eq_true_eq, beq_iff_eq]
  split at h
  · rename_i hone
    obtain rfl := List.mem_singleton.mp h
    exact ⟨⟨hlow, hhigh⟩, by rw [hone, Nat.mod_one]⟩
  · obtain ⟨hmem, hlast⟩ := List.mem_filter.mp h
    obtain ⟨k, -, rfl⟩ := List.mem_map.mp hmem
    obtain rfl : n = run.first + k * run.step := Nat.le_antisymm hhigh hlow
    exact ⟨⟨Nat.le_add_right _ _, of_decide_eq_true hlast⟩, by rw [Nat.add_sub_cancel_left, Nat.mul_mod_left]⟩

theorem exists_of_covers {fuel : Nat} {wides set : CharSet} (h : covers fuel wides set = true) {run : CharRun}
    (hrun : run ∈ set) : ∃ wide ∈ wides, wide.first ≤ run.first ∧ run.last ≤ wide.last := by
  fun_induction covers fuel wides set with
  | case1 wides set =>
    rw [List.isEmpty_iff.mp h] at hrun
    cases hrun
  | case2 => cases hrun
  | case3 => cases h
  | case4 fuel wide rest first set hwithin ih =>
    rcases List.mem_cons.mp hrun with rfl | hrun
    · simp only [CharRun.within, Bool.and_eq_true, Nat.ble_eq] at hwithin
      exact ⟨wide, List.mem_cons_self .., hwithin⟩
    · exact ih h hrun
  | case5 fuel wide rest first set _ ih =>
    obtain ⟨found, hfound, hbounds⟩ := ih h hrun
    exact ⟨found, List.mem_cons_of_mem _ hfound, hbounds⟩

/-- A set all of whose runs are within those of another is part of it. -/
theorem CharSet.holds_of_covers {set other : CharSet} {fuel : Nat}
    (h : covers fuel (other.flatMap CharRun.pieces) (set.flatMap CharRun.pieces) = true) {c : Char}
    (hc : set.holds c = true) : other.holds c = true := by
  obtain ⟨run, hrun, hheld⟩ := List.any_eq_true.mp hc
  obtain ⟨piece, hpiece, hlow, hhigh⟩ := CharRun.exists_piece hheld
  obtain ⟨wide, hwide, hfirst, hlast⟩ := exists_of_covers h (List.mem_flatMap.mpr ⟨run, hrun, hpiece⟩)
  obtain ⟨whole, hwhole, hmem⟩ := List.mem_flatMap.mp hwide
  exact List.any_eq_true.mpr ⟨whole, hwhole, CharRun.holds_of_piece hmem (hfirst.trans hlow) (hhigh.trans hlast)⟩

theorem CharSet.Ascending.pairwise {set : CharSet} (h : CharSet.Ascending set) :
    List.Pairwise (fun run next : CharRun => run.first ≤ next.first) set :=
  have : Trans (fun run next : CharRun => run.first ≤ next.first) (fun run next : CharRun => run.first ≤ next.first)
    (fun run next : CharRun => run.first ≤ next.first) := ⟨Nat.le_trans⟩
  List.isChain_iff_pairwise.mp h

/-- What a run is separate from is separate from those after it too, as their bounds ascend. -/
theorem apart_of_separate {fuel : Nat} {set other : CharSet} (h : separate fuel set other = true)
    (hset : set.Pairwise fun run next => run.first ≤ next.first)
    (hother : other.Pairwise fun run next => run.first ≤ next.first) {run wide : CharRun} (hrun : run ∈ set)
    (hwide : wide ∈ other) : run.last < wide.first ∨ wide.last < run.first := by
  fun_induction separate fuel set other with
  | case1 => cases h
  | case2 => cases hrun
  | case3 => cases hwide
  | case4 fuel first set next rest hbefore ih =>
    rw [List.pairwise_cons] at hset
    rcases List.mem_cons.mp hrun with rfl | hrun
    · left
      rcases List.mem_cons.mp hwide with rfl | hwide
      · exact Nat.blt_eq.mp hbefore
      · exact (Nat.blt_eq.mp hbefore).trans_le ((List.pairwise_cons.mp hother).1 wide hwide)
    · exact ih h hset.2 hother hrun hwide
  | case5 fuel first set next rest _ ih =>
    rw [Bool.and_eq_true, Nat.blt_eq] at h
    rw [List.pairwise_cons] at hother
    rcases List.mem_cons.mp hwide with rfl | hwide
    · right
      rcases List.mem_cons.mp hrun with rfl | hrun
      · exact h.1
      · exact h.1.trans_le ((List.pairwise_cons.mp hset).1 run hrun)
    · exact ih h.2 hset hother.2 hrun hwide

theorem CharSet.Apart.not_holds {set other : CharSet} (h : CharSet.Apart set other) {c : Char}
    (hc : set.holds c = true) : other.holds c = false := by
  obtain ⟨run, hrun, hheld⟩ := List.any_eq_true.mp hc
  refine Bool.eq_false_iff.mpr fun hother => ?_
  obtain ⟨wide, hwide, hin⟩ := List.any_eq_true.mp hother
  have happart := apart_of_separate h.separate h.left.pairwise h.right.pairwise hrun hwide
  simp only [CharRun.holds, Bool.and_eq_true, decide_eq_true_eq] at hheld hin
  omega

/-! ### Letters -/

/-- White space, marks of punctuation and hyphens, as a set. -/
def marks : CharSet :=
  [⟨0x09, 0x0D, 1⟩, ⟨0x20, 0x3F, 1⟩, ⟨0x85, 0x85, 1⟩, ⟨0xA0, 0xA0, 1⟩, ⟨0x1680, 0x1680, 1⟩,
    ⟨0x2000, 0x200A, 1⟩, ⟨0x2013, 0x2013, 1⟩, ⟨0x2028, 0x2029, 1⟩, ⟨0x202F, 0x202F, 1⟩, ⟨0x205F, 0x205F, 1⟩,
    ⟨0x3000, 0x3000, 1⟩]

/-- White space, as a set. -/
def spaceMarks : CharSet :=
  [⟨0x09, 0x0D, 1⟩, ⟨0x20, 0x20, 1⟩, ⟨0x85, 0x85, 1⟩, ⟨0xA0, 0xA0, 1⟩, ⟨0x1680, 0x1680, 1⟩,
    ⟨0x2000, 0x200A, 1⟩, ⟨0x2028, 0x2029, 1⟩, ⟨0x202F, 0x202F, 1⟩, ⟨0x205F, 0x205F, 1⟩, ⟨0x3000, 0x3000, 1⟩]

/-- Letters and digits are word characters, letters are kept by match keys, capitals are letters, and white space is
among the marks. -/
theorem covers_classes :
    covers 2000 (wordCharacters.flatMap CharRun.pieces) (letters.flatMap CharRun.pieces) = true ∧
    covers 2000 (wordCharacters.flatMap CharRun.pieces) (decimalDigits.flatMap CharRun.pieces) = true ∧
    covers 2000 (alphanumerics.flatMap CharRun.pieces) (letters.flatMap CharRun.pieces) = true ∧
    covers 2000 (letters.flatMap CharRun.pieces) (capitals.flatMap CharRun.pieces) = true ∧
    covers 2000 (marks.flatMap CharRun.pieces) (spaceMarks.flatMap CharRun.pieces) = true := by
  decide +kernel

/-- Letters are neither marks nor digits, and white space is no part of a word. -/
theorem apart_classes : (CharSet.Apart letters marks ∧ CharSet.Apart letters decimalDigits) ∧
    CharSet.Apart spaceMarks wordCharacters := by
  decide +kernel

theorem spaceMarks_of_isSpace {c : Char} (h : isSpace c = true) : spaceMarks.holds c = true := by
  simp only [isSpace, Bool.or_eq_true, Bool.and_eq_true, decide_eq_true_eq, beq_iff_eq] at h
  simp only [CharSet.holds, spaceMarks, CharRun.holds, List.any_cons, List.any_nil, Nat.mod_one, beq_self_eq_true,
    Bool.and_true, Bool.or_false, Bool.or_eq_true, Bool.and_eq_true, decide_eq_true_eq]
  omega

theorem marks_of_isSpace {c : Char} (h : isSpace c = true) : marks.holds c = true :=
  CharSet.holds_of_covers covers_classes.2.2.2.2 (spaceMarks_of_isSpace h)

theorem wordCharacter_space : wordCharacters.holds ' ' = false :=
  apart_classes.2.not_holds (spaceMarks_of_isSpace (by decide))

section
variable {c : Char} (hc : letters.holds c = true)
include hc

theorem wordCharacter_of_letter : wordCharacters.holds c = true := CharSet.holds_of_covers covers_classes.1 hc

theorem marks_of_letter : marks.holds c = false ∧ decimalDigits.holds c = false :=
  ⟨apart_classes.1.1.not_holds hc, apart_classes.1.2.not_holds hc⟩

theorem isSpace_of_letter : isSpace c = false := Bool.eq_false_iff.mpr fun hspace => by
  have hmark := (marks_of_letter hc).1
  rw [marks_of_isSpace hspace] at hmark
  cases hmark

end

theorem letter_of_capital {c : Char} (hc : capitals.holds c = true) : letters.holds c = true :=
  CharSet.holds_of_covers covers_classes.2.2.2.1 hc

/-! ### Digits and white space -/

/-- White space is no part of a word. -/
theorem isSpace_of_wordCharacter {c : Char} (hc : wordCharacters.holds c = true) : isSpace c = false :=
  Bool.eq_false_iff.mpr fun hspace => by
    rw [apart_classes.2.not_holds (spaceMarks_of_isSpace hspace)] at hc
    cases hc

theorem wordCharacter_of_digit {c : Char} (hc : decimalDigits.holds c = true) : wordCharacters.holds c = true :=
  CharSet.holds_of_covers covers_classes.2.1 hc

/-- The digits from zero to nine are decimal digits. -/
theorem digit_of_plain {c : Char} (h : '0' ≤ c ∧ c ≤ '9') : decimalDigits.holds c = true := by
  have hlow : 48 ≤ c.toNat := h.1
  have hhigh : c.toNat ≤ 57 := h.2
  have hrun : (⟨48, 57, 1⟩ : CharRun) ∈ decimalDigits := by decide
  refine List.any_eq_true.mpr ⟨_, hrun, ?_⟩
  simp only [CharRun.holds, Nat.mod_one, beq_self_eq_true, Bool.and_true, Bool.and_eq_true, decide_eq_true_eq]
  omega

/-! ### What is kept of letters -/

/-- Where a run puts its code points, between the first and the last. -/
def CaseShift.image (run : CaseShift) : CharRun := ⟨run.target run.first, run.target run.last, 1⟩

/-- The digits from zero to nine. -/
def plainDigits : CharRun := ⟨48, 57, 1⟩

theorem plainDigits_unheld {n : Nat} : plainDigits.holds n = false ↔ n < 48 ∨ 57 < n := by
  show (48 ≤ n && n ≤ 57 && (n - 48) % 1 == 0) = false ↔ _
  simp only [Nat.mod_one, beq_self_eq_true, Bool.and_true, Bool.and_eq_false_iff, decide_eq_false_iff_not, Nat.not_le]

/-- Lower-case forms that lie elsewhere are kept by match keys, and are not digits. -/
theorem shifted_alphanumerics : (lowercaseShifts.all fun run =>
    (alphanumerics.any fun wide => wide.step == 1 && run.image.within wide) &&
      run.image.apart plainDigits) = true := by
  decide +kernel

theorem alphanumeric_shifted {run : CaseShift} (hrun : run ∈ lowercaseShifts) {c : Char}
    (hc : run.holds c.toNat = true) :
    alphanumerics.holds (Char.ofNat (run.target c.toNat)) = true ∧
      plainDigits.holds (Char.ofNat (run.target c.toNat)).toNat = false := by
  have hcode := toNat_shifted hrun hc
  have hall := List.all_eq_true.mp shifted_alphanumerics run hrun
  simp only [Bool.and_eq_true, List.any_eq_true, beq_iff_eq, CharRun.within, CharRun.apart, CaseShift.image,
    Nat.ble_eq, Bool.or_eq_true, Nat.blt_eq] at hall
  obtain ⟨⟨wide, hwide, hstep, hfirst, hlast⟩, happart⟩ := hall
  simp only [CaseShift.holds, Bool.and_eq_true, decide_eq_true_eq] at hc
  have hlow := run.target_mono hc.1.1
  have hhigh := run.target_mono hc.1.2
  constructor
  · refine List.any_eq_true.mpr ⟨wide, hwide, ?_⟩
    simp only [CharRun.holds, hcode, hstep, Nat.mod_one, beq_self_eq_true, Bool.and_true, Bool.and_eq_true,
      decide_eq_true_eq]
    omega
  · rw [hcode, plainDigits_unheld]
    simp only [plainDigits] at happart
    omega

/-- The two letters that become two characters each are kept, the dotted capital I without its dot, and brackets are
not. -/
theorem alphanumerics_exceptions : (alphanumerics.holds 'İ' = true ∧ alphanumerics.holds 'ß' = true) ∧
    (alphanumerics.holds '[' = false ∧ alphanumerics.holds ']' = false) ∧ kept ['İ'] = ['i'] := by
  decide +kernel

theorem keyCharacters_of_alphanumeric {d : Char} (h : alphanumerics.holds d = true) :
    keyCharacters d = if d = 'ß' then ['s', 's'] else [d] := by
  have hbrackets := alphanumerics_exceptions.2.1
  unfold keyCharacters
  split
  · rfl
  · rw [if_neg, if_pos (by rw [h]; rfl)]
    rw [Bool.or_eq_true, decide_eq_true_eq, decide_eq_true_eq]
    rintro (rfl | rfl)
    · rw [hbrackets.1] at h
      cases h
    · rw [hbrackets.2] at h
      cases h

/-- Of a letter something is kept, and neither white space nor a digit from zero to nine. -/
theorem kept_of_letter {c : Char} (hc : letters.holds c = true) :
    kept [c] ≠ [] ∧ ∀ d ∈ kept [c], isSpace d = false ∧ plainDigits.holds d.toNat = false := by
  by_cases hdotted : c = 'İ'
  · rw [hdotted, alphanumerics_exceptions.2.2]
    exact ⟨List.cons_ne_nil _ _, List.forall_mem_singleton.mpr ⟨rfl, rfl⟩⟩
  -- Any other letter has one lower-case form.
  have hlower : lower c = [shiftCase lowercaseShifts c] := if_neg hdotted
  have hspace : isSpace (shiftCase lowercaseShifts c) = false := by
    rw [isSpace_of_mem_lower (c := c) (by rw [hlower]; exact List.mem_singleton_self _), isSpace_of_letter hc]
  have hform : alphanumerics.holds (shiftCase lowercaseShifts c) = true ∧
      plainDigits.holds (shiftCase lowercaseShifts c).toNat = false := by
    rcases shiftCase_eq (c := c) with ⟨-, heq⟩ | ⟨run, hrun, hholds, heq⟩
    · rw [heq]
      refine ⟨CharSet.holds_of_covers covers_classes.2.2.1 hc, ?_⟩
      have hmark := (marks_of_letter hc).1
      simp only [CharSet.holds, marks, CharRun.holds, List.any_cons, Bool.or_eq_false_iff, Nat.mod_one,
        beq_self_eq_true, Bool.and_true, Bool.and_eq_false_iff, decide_eq_false_iff_not] at hmark
      rw [plainDigits_unheld]
      omega
    · rw [heq]
      exact alphanumeric_shifted hrun hholds
  have hkept : kept [c] =
      if shiftCase lowercaseShifts c = 'ß' then ['s', 's'] else [shiftCase lowercaseShifts c] := by
    simp only [kept, List.flatMap_cons, List.flatMap_nil, List.append_nil, hlower,
      keyCharacters_of_alphanumeric hform.1]
  rw [hkept]
  split
  · exact ⟨List.cons_ne_nil _ _, by simp only [List.forall_mem_cons]; exact ⟨⟨rfl, rfl⟩, ⟨rfl, rfl⟩, List.forall_mem_nil _⟩⟩
  · exact ⟨List.cons_ne_nil _ _, List.forall_mem_singleton.mpr ⟨hspace, hform.2⟩⟩

section
variable {w : List Char} (hw : ∀ c ∈ w, letters.holds c = true)
include hw

theorem of_mem_kept {d : Char} (hd : d ∈ kept w) : isSpace d = false ∧ plainDigits.holds d.toNat = false := by
  induction w with
  | nil => cases hd
  | cons c w ih =>
    obtain ⟨hc, hw⟩ := List.forall_mem_cons.mp hw
    rw [kept_cons] at hd
    rcases List.mem_append.mp hd with hd | hd
    · exact (kept_of_letter hc).2 d hd
    · exact ih hw hd

/-- A word of letters is a word, and its key is one. -/
theorem isWord_of_letters (hne : w ≠ []) : IsWord w := ⟨hne, fun c hc => isSpace_of_letter (hw c hc)⟩

theorem isWord_kept (hne : w ≠ []) : IsWord (kept w) := by
  refine ⟨?_, fun d hd => (of_mem_kept hw hd).1⟩
  cases w with
  | nil => exact absurd rfl hne
  | cons c w =>
    rw [kept_cons]
    exact fun hnil => (kept_of_letter (List.forall_mem_cons.mp hw).1).1 (List.append_eq_nil_iff.mp hnil).1

end

end Catalogue.Text
