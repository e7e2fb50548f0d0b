import Catalogue.Text.MatchKey
import Catalogue.Text.Occurrence
import Mathlib.Data.List.Infix
import Mathlib.Data.List.TakeWhile

/-! Lower case, once over A to Z and once over all letters. What is in lower case stays
as it is (`Lower`), so a text whose letters A to Z are put in lower case has the
folded code of another only if its own is the same (`foldedCode_of_asciiLowercase`),
and one that has it somewhere within has it in its own (`foldedCode_of_stretch`). -/
namespace Catalogue.Text

/-! ### Runs -/

/-- Where a run puts a code point. -/
def CaseShift.target (run : CaseShift) (n : Nat) : Nat := (n + run.shift).toNat

/-- Whether a run puts none of its code points where the other run is. -/
def CaseShift.clearOf (run other : CaseShift) : Bool :=
  Nat.blt (run.target run.last) other.first || Nat.blt other.last (run.target run.first) ||
    (List.range ((run.last - run.first) / run.step + 1)).all fun k =>
      !other.holds (run.target (run.first + k * run.step))

theorem CaseShift.target_mono (run : CaseShift) {m n : Nat} (h : m ≤ n) : run.target m ≤ run.target n := by
  unfold target
  omega

/-- A number that is whole steps from a first one is reached by as many steps as there are at most. -/
theorem exists_steps {first last step n : Nat} (hfirst : first ≤ n) (hlast : n ≤ last)
    (hstep : (n - first) % step = 0) : ∃ k < (last - first) / step + 1, first + k * step = n := by
  refine ⟨(n - first) / step, Nat.lt_succ_of_le (Nat.div_le_div_right (by omega)), ?_⟩
  have := Nat.div_add_mod (n - first) step
  rw [Nat.mul_comm, hstep] at this
  omega

theorem CaseShift.holds_target {run other : CaseShift} (hclear : run.clearOf other = true) {n : Nat}
    (hn : run.holds n = true) : other.holds (run.target n) = false := by
  simp only [holds, Bool.and_eq_true, decide_eq_true_eq, beq_iff_eq] at hn
  obtain ⟨⟨hfirst, hlast⟩, hstep⟩ := hn
  simp only [clearOf, Bool.or_eq_true, Nat.blt_eq, List.all_eq_true, List.mem_range,
    Bool.not_eq_true'] at hclear
  rcases hclear with (hbelow | habove) | hone
  · have := run.target_mono hlast
    simp only [holds, Bool.and_eq_false_iff, decide_eq_false_iff_not]
    omega
  · have := run.target_mono hfirst
    simp only [holds, Bool.and_eq_false_iff, decide_eq_false_iff_not]
    omega
  · obtain ⟨k, hk, rfl⟩ := exists_steps hfirst hlast hstep
    exact hone k hk

/-- White space, as runs. -/
def spaceRuns : List CaseShift :=
  [⟨0x09, 0x0D, 1, 0⟩, ⟨0x20, 0x20, 1, 0⟩, ⟨0x85, 0x85, 1, 0⟩, ⟨0xA0, 0xA0, 1, 0⟩,
    ⟨0x1680, 0x1680, 1, 0⟩, ⟨0x2000, 0x200A, 1, 0⟩, ⟨0x2028, 0x2029, 1, 0⟩, ⟨0x202F, 0x202F, 1, 0⟩,
    ⟨0x205F, 0x205F, 1, 0⟩, ⟨0x3000, 0x3000, 1, 0⟩]

/-- The dotted capital I, as a run. -/
def dottedRun : CaseShift := ⟨0x130, 0x130, 1, 0⟩

theorem isSpace_eq (c : Char) : isSpace c = spaceRuns.any (·.holds c.toNat) := by
  rw [Bool.eq_iff_iff]
  simp only [isSpace, spaceRuns, CaseShift.holds, List.any_cons, List.any_nil, Nat.mod_one, beq_self_eq_true,
    Bool.and_true, Bool.or_false, Bool.or_eq_true, Bool.and_eq_true, decide_eq_true_eq, beq_iff_eq]
  omega

/-- Lower-case forms have no other lower-case form, and are neither white space nor the dotted
capital I; and white space has no other lower-case form. Forms that lie elsewhere are characters,
and the zero character has none. -/
theorem checked_lowercaseShifts :
    (lowercaseShifts.all fun run => (dottedRun :: spaceRuns ++ lowercaseShifts).all run.clearOf) = true ∧
    (spaceRuns.all fun run => lowercaseShifts.all run.clearOf) = true ∧
    (lowercaseShifts.all fun run => Nat.blt (run.target run.last) 0xD800 ||
      (Nat.blt 0xDFFF (run.target run.first) && Nat.blt (run.target run.last) 0x110000)) = true ∧
    ((dottedRun :: spaceRuns ++ lowercaseShifts).all fun run => !run.holds 0) = true := by
  decide +kernel

/-! ### Letters A to Z -/

theorem toLower_of_not_upper {c : Char} (h : ¬(65 ≤ c.toNat ∧ c.toNat ≤ 90)) : c.toLower = c := by
  refine dif_neg fun hupper => h ?_
  exact ⟨UInt32.le_iff_toNat_le.mp hupper.1, UInt32.le_iff_toNat_le.mp hupper.2⟩

private theorem toLower_of_code : ∀ n ∈ List.range' 65 26,
    lower (Char.ofNat n).toLower = lower (Char.ofNat n) ∧
      isSpace (Char.ofNat n).toLower = isSpace (Char.ofNat n) ∧
      (Char.ofNat n).toLower.toLower = (Char.ofNat n).toLower := by decide +kernel

/-- Lower case of the letters A to Z changes neither the lower-case form of a character nor whether
it is white space, and changes nothing a second time. -/
theorem lower_toLower (c : Char) :
    lower c.toLower = lower c ∧ isSpace c.toLower = isSpace c ∧ c.toLower.toLower = c.toLower := by
  by_cases hupper : 65 ≤ c.toNat ∧ c.toNat ≤ 90
  · have hcode := toLower_of_code c.toNat (by rw [List.mem_range'_1]; omega)
    rwa [Char.ofNat_toNat] at hcode
  · rw [toLower_of_not_upper hupper, toLower_of_not_upper hupper]
    exact ⟨rfl, rfl, rfl⟩

/-! ### One character -/

/-- A character that is its own lower-case form. -/
structure Lower (c : Char) : Prop where
  undotted : c ≠ 'İ'
  unshifted : ∀ run ∈ lowercaseShifts, run.holds c.toNat = false

instance (c : Char) : Decidable (Lower c) :=
  decidable_of_iff (c ≠ 'İ' ∧ ∀ run ∈ lowercaseShifts, run.holds c.toNat = false)
    ⟨fun h => ⟨h.1, h.2⟩, fun h => ⟨h.1, h.2⟩⟩

namespace Lower
variable {c : Char}

theorem lower_eq (h : Lower c) : lower c = [c] := by
  have hfind : lowercaseShifts.find? (·.holds c.toNat) = none :=
    List.find?_eq_none.mpr fun run hrun => by simp [h.unshifted run hrun]
  rw [lower, if_neg h.undotted, shiftCase, hfind]

theorem toLower_eq (h : Lower c) : c.toLower = c := by
  have hcapital := h.unshifted ⟨65, 90, 1, 32⟩ (List.mem_cons_self ..)
  refine toLower_of_not_upper fun hrange => ?_
  simp [CaseShift.holds, Nat.mod_one, hrange] at hcapital

end Lower

/-- The lower-case form of a character that has another one. -/
theorem shiftCase_eq {c : Char} :
    (∀ run ∈ lowercaseShifts, run.holds c.toNat = false) ∧ shiftCase lowercaseShifts c = c ∨
      ∃ run ∈ lowercaseShifts, run.holds c.toNat = true ∧
        shiftCase lowercaseShifts c = Char.ofNat (run.target c.toNat) := by
  unfold shiftCase
  cases hfind : lowercaseShifts.find? (·.holds c.toNat) with
  | none => exact .inl ⟨fun run hrun => by simpa using List.find?_eq_none.mp hfind run hrun, rfl⟩
  | some run => exact .inr ⟨run, List.mem_of_find?_eq_some hfind,
      List.find?_some (p := fun run : CaseShift => run.holds c.toNat) hfind, rfl⟩

/-- The code of a character that is made from a code, or zero if there is none. -/
theorem toNat_ofNat (n : Nat) : (Char.ofNat n).toNat = n ∨ (Char.ofNat n).toNat = 0 := by
  by_cases hvalid : n.isValidChar
  · rw [Char.ofNat, dif_pos hvalid]
    exact .inl rfl
  · rw [Char.ofNat, dif_neg hvalid]
    exact .inr rfl

theorem toNat_ofNat_of_valid {n : Nat} (h : n < 0xD800 ∨ 0xDFFF < n ∧ n < 0x110000) :
    (Char.ofNat n).toNat = n := by
  have hvalid : n.isValidChar := h
  rw [Char.ofNat, dif_pos hvalid]
  rfl

theorem toNat_shifted {run : CaseShift} (hrun : run ∈ lowercaseShifts) {n : Nat} (hn : run.holds n = true) :
    (Char.ofNat (run.target n)).toNat = run.target n := by
  have hvalid := List.all_eq_true.mp checked_lowercaseShifts.2.2.1 run hrun
  simp only [Bool.or_eq_true, Bool.and_eq_true, Nat.blt_eq] at hvalid
  simp only [CaseShift.holds, Bool.and_eq_true, decide_eq_true_eq] at hn
  have hfirst := run.target_mono hn.1.1
  have hlast := run.target_mono hn.1.2
  exact toNat_ofNat_of_valid (by omega)

/-- Where a run puts a character is in none of the runs that it is clear of. -/
theorem holds_ofNat_target {run other : CaseShift} (hclear : run.clearOf other = true) {c : Char}
    (hc : run.holds c.toNat = true) (hzero : other.holds 0 = false) :
    other.holds (Char.ofNat (run.target c.toNat)).toNat = false := by
  rcases toNat_ofNat (run.target c.toNat) with h | h
  · rw [h]
    exact CaseShift.holds_target hclear hc
  · rw [h]
    exact hzero

theorem clear_of_mem {run other : CaseShift} (hrun : run ∈ lowercaseShifts)
    (hother : other ∈ dottedRun :: spaceRuns ++ lowercaseShifts) : run.clearOf other = true :=
  List.all_eq_true.mp (List.all_eq_true.mp checked_lowercaseShifts.1 run hrun) other hother

theorem holds_shifted {run other : CaseShift} (hrun : run ∈ lowercaseShifts) {c : Char}
    (hc : run.holds c.toNat = true) (hother : other ∈ dottedRun :: spaceRuns ++ lowercaseShifts) :
    other.holds (Char.ofNat (run.target c.toNat)).toNat = false := by
  have hzero := List.all_eq_true.mp checked_lowercaseShifts.2.2.2 other hother
  exact holds_ofNat_target (clear_of_mem hrun hother) hc (by simpa using hzero)

/-- The two parts of the dotted capital I, the final sigma, what match keys have for a sharp s, and a space. -/
theorem lower_singly : ∀ c ∈ ['i', '\u0307', 'ς', 's', ' '], Lower c := by
  simp only [List.forall_mem_cons]
  refine ⟨?_, ?_, ?_, ?_, ?_, List.forall_mem_nil _⟩ <;> decide +kernel

/-- A lower-case form is its own lower-case form. -/
theorem lower_of_mem_lower {c d : Char} (h : d ∈ lower c) : Lower d := by
  unfold lower at h
  split at h
  · simp only [List.mem_cons, List.not_mem_nil, or_false] at h
    rcases h with rfl | rfl <;> exact lower_singly _ (by decide)
  · rename_i hc
    rw [List.mem_singleton] at h
    rcases shiftCase_eq (c := c) with ⟨hnone, heq⟩ | ⟨run, hrun, hholds, heq⟩
    · rw [h, heq]
      exact ⟨hc, hnone⟩
    · rw [h, heq]
      constructor
      · intro hdotted
        have hfalse : dottedRun.holds _ = false := holds_shifted hrun hholds (by simp)
        rw [hdotted] at hfalse
        exact absurd hfalse (by decide)
      · exact fun other hother => holds_shifted hrun hholds (List.mem_append_right _ hother)

/-- A lower-case form is white space if the character is. -/
theorem isSpace_of_mem_lower {c d : Char} (h : d ∈ lower c) : isSpace d = isSpace c := by
  unfold lower at h
  split at h
  · rename_i hc
    subst hc
    simp only [List.mem_cons, List.not_mem_nil, or_false] at h
    rcases h with rfl | rfl <;> decide
  · rw [List.mem_singleton] at h
    rcases shiftCase_eq (c := c) with ⟨-, heq⟩ | ⟨run, hrun, hholds, heq⟩
    · rw [h, heq]
    · rw [h, heq, isSpace_eq, isSpace_eq]
      have htarget : spaceRuns.any (·.holds (Char.ofNat (run.target c.toNat)).toNat) = false := by
        rw [List.any_eq_false]
        intro space hspace
        rw [holds_shifted hrun hholds (List.mem_append_left _ (List.mem_cons_of_mem _ hspace))]
        simp
      have hsource : spaceRuns.any (·.holds c.toNat) = false := by
        rw [List.any_eq_false]
        intro space hspace hheld
        have hclear := List.all_eq_true.mp (List.all_eq_true.mp checked_lowercaseShifts.2.1 space hspace) run hrun
        have hfalse := CaseShift.holds_target hclear hheld
        have hsame : space.target c.toNat = c.toNat := by
          have hshift : ∀ run ∈ spaceRuns, run.shift = 0 := by decide
          rw [CaseShift.target, hshift space hspace]
          omega
        rw [hsame, hholds] at hfalse
        cases hfalse
      rw [htarget, hsource]

/-! ### Texts -/

/-- Text that is in lower case, letter by letter. -/
def LowerText (s : List Char) : Prop := ∀ c ∈ s, Lower c

theorem LowerText.map_toLower {s : List Char} (h : LowerText s) : s.map Char.toLower = s := by
  conv_rhs => rw [← List.map_id s]
  exact List.map_congr_left fun c hc => (h c hc).toLower_eq

/-- What a character becomes in lower case, whatever stands around it. -/
theorem lowercaseAfter_cons (before rest : List Char) (c : Char) :
    ∃ d, lowercaseAfter before (c :: rest) = d ++ lowercaseAfter (c :: before) rest ∧ d ≠ [] ∧
      ∀ e ∈ d, isSpace e = isSpace c := by
  rw [lowercaseAfter]
  by_cases hc : c = 'Σ'
  · subst hc
    have hsigma : isSpace (if endsWord before rest then 'ς' else 'σ') = isSpace 'Σ' := by
      split <;> decide
    refine ⟨_, rfl, by simp, fun e he => ?_⟩
    rw [if_pos rfl, List.mem_singleton] at he
    exact he ▸ hsigma
  · rw [if_neg hc]
    refine ⟨_, rfl, ?_, fun _ => isSpace_of_mem_lower⟩
    unfold lower
    split <;> simp

theorem lowercaseAfter_append (before xs ys : List Char) :
    ∃ zs, lowercaseAfter before (xs ++ ys) = zs ++ lowercaseAfter (xs.reverse ++ before) ys := by
  induction xs generalizing before with
  | nil => exact ⟨[], rfl⟩
  | cons x xs ih =>
    obtain ⟨d, hd, -⟩ := lowercaseAfter_cons before (xs ++ ys) x
    obtain ⟨zs, hzs⟩ := ih (x :: before)
    refine ⟨d ++ zs, ?_⟩
    rw [List.cons_append, hd, hzs, List.reverse_cons, List.append_assoc, List.append_assoc]
    rfl

theorem lower_sigma : lower 'Σ' = ['σ'] := by decide +kernel

/-- What a text in lower case is made of. -/
theorem mem_lowercaseAfter {before s : List Char} {d : Char} (h : d ∈ lowercaseAfter before s) :
    d = 'ς' ∨ ∃ c ∈ s, d ∈ lower c := by
  induction s generalizing before with
  | nil => cases h
  | cons c s ih =>
    rw [lowercaseAfter, List.mem_append] at h
    rcases h with h | h
    · split at h
      · rename_i hc
        subst hc
        rw [List.mem_singleton] at h
        split at h
        · exact .inl h
        · refine .inr ⟨'Σ', List.mem_cons_self .., ?_⟩
          rw [h, lower_sigma]
          exact List.mem_singleton_self _
      · exact .inr ⟨c, List.mem_cons_self .., h⟩
    · rcases ih h with h | ⟨e, he, h⟩
      · exact .inl h
      · exact .inr ⟨e, List.mem_cons_of_mem _ he, h⟩

theorem lowerText_lowercaseAfter (before s : List Char) : LowerText (lowercaseAfter before s) := by
  intro d hd
  rcases mem_lowercaseAfter hd with rfl | ⟨c, -, hd⟩
  · exact lower_singly 'ς' (by decide)
  · exact lower_of_mem_lower hd

/-- Text whose letters A to Z differ from text in lower case by their case alone has no capital sigma,
so each of its characters is put in lower case by itself. -/
theorem lowercaseAfter_of_map {m l : List Char} (hl : LowerText l) (h : m.map Char.toLower = l)
    (before ys : List Char) :
    lowercaseAfter before (m ++ ys) = l ++ lowercaseAfter (m.reverse ++ before) ys := by
  induction m generalizing before l with
  | nil =>
    subst h
    rfl
  | cons c m ih =>
    subst h
    have hc : Lower c.toLower := hl _ (List.mem_cons_self ..)
    have hsigma : c ≠ 'Σ' := by
      rintro rfl
      have hself : lower 'Σ' = ['Σ'] := hc.lower_eq
      rw [lower_sigma] at hself
      exact absurd hself (by decide)
    rw [List.cons_append, lowercaseAfter, if_neg hsigma,
      ih (fun d hd => hl d (List.mem_cons_of_mem _ hd)) rfl, ← (lower_toLower c).1, hc.lower_eq]
    simp

/-- A text that in lower case has no sigma is put in lower case character by character. -/
theorem flatMap_lower {before s : List Char} (h : ∀ c ∈ lowercaseAfter before s, c ≠ 'σ' ∧ c ≠ 'ς') :
    s.flatMap lower = lowercaseAfter before s := by
  induction s generalizing before with
  | nil => rfl
  | cons c s ih =>
    have hsigma : c ≠ 'Σ' := by
      rintro rfl
      rw [lowercaseAfter, if_pos rfl] at h
      split at h
      · exact (h 'ς' (by simp)).2 rfl
      · exact (h 'σ' (by simp)).1 rfl
    rw [lowercaseAfter, if_neg hsigma] at h ⊢
    rw [List.flatMap_cons, ih fun d hd => h d (List.mem_append_right _ hd)]

/-! ### Trimming -/

/-- Text that neither begins nor ends with white space. -/
structure Bare (s : List Char) : Prop where
  first : ∀ c ∈ s.head?, isSpace c = false
  last : ∀ c ∈ s.getLast?, isSpace c = false

theorem Bare.reverse {s : List Char} (h : Bare s) : Bare s.reverse :=
  ⟨fun c hc => h.last c (by rwa [List.head?_reverse] at hc),
    fun c hc => h.first c (by rwa [List.getLast?_reverse] at hc)⟩

theorem trimStart_of_first {s : List Char} (h : ∀ c ∈ s.head?, isSpace c = false) : trimStart s = s := by
  cases s with
  | nil => rfl
  | cons c s => exact List.dropWhile_cons_of_neg (by simp [h c rfl])

theorem trimEnd_eq (s : List Char) : trimEnd s = (trimStart s.reverse).reverse := rfl

/-- Trimming takes nothing from a text without white space at its ends where it is part of a longer one: only
what stands before and after it is trimmed. -/
theorem trimStart_append {m : List Char} (hne : m ≠ []) (hm : ∀ c ∈ m.head?, isSpace c = false)
    (a b : List Char) : trimStart (a ++ m ++ b) = trimStart a ++ m ++ b := by
  induction a with
  | nil =>
    refine trimStart_of_first ?_
    cases m with
    | nil => exact absurd rfl hne
    | cons c m => exact hm
  | cons c a ih =>
    by_cases hc : isSpace c = true
    · have hskip (s : List Char) : trimStart (c :: s) = trimStart s := List.dropWhile_cons_of_pos hc
      rw [hskip, ← ih]
      exact hskip _
    · have hkeep (s : List Char) : trimStart (c :: s) = c :: s := List.dropWhile_cons_of_neg hc
      rw [hkeep]
      exact hkeep _

theorem trim_append {m : List Char} (hne : m ≠ []) (hm : Bare m) (a b : List Char) :
    trimEnd (trimStart (a ++ m ++ b)) = trimStart a ++ m ++ trimEnd b := by
  have hreversed := trimStart_append (List.reverse_ne_nil_iff.mpr hne) hm.reverse.first b.reverse (trimStart a).reverse
  rw [trimStart_append hne hm.first, trimEnd_eq, trimEnd_eq]
  simp only [List.reverse_append, ← List.append_assoc] at hreversed ⊢
  rw [hreversed]
  simp

theorem trim_of_bare {s : List Char} (h : Bare s) : trimEnd (trimStart s) = s := by
  rw [trimStart_of_first h.first, trimEnd_eq, trimStart_of_first h.reverse.first, List.reverse_reverse]

theorem first_trimStart (s : List Char) : ∀ c ∈ (trimStart s).head?, isSpace c = false := by
  intro c hc
  have hnot := List.head?_dropWhile_not isSpace s
  rw [show (s.dropWhile isSpace).head? = some c from hc] at hnot
  exact hnot

theorem bare_trim (s : List Char) : Bare (trimEnd (trimStart s)) := by
  constructor
  · intro c hc
    rw [trimEnd_eq, List.head?_reverse] at hc
    obtain ⟨a, ha⟩ : trimStart (trimStart s).reverse <:+ (trimStart s).reverse := List.dropWhile_suffix _
    have hlast : (trimStart s).reverse.getLast? = some c := by
      rw [← ha, List.getLast?_append, hc]
      rfl
    rw [List.getLast?_reverse] at hlast
    exact first_trimStart s c hlast
  · intro c hc
    rw [trimEnd_eq, List.getLast?_reverse] at hc
    exact first_trimStart _ c hc

theorem bare_of_forall {s : List Char} (h : ∀ c ∈ s, isSpace c = false) : Bare s :=
  ⟨fun c hc => h c (List.mem_of_mem_head? hc), fun c hc => h c (List.mem_of_mem_getLast? hc)⟩

/-- Nothing is left of a text exactly if it is blank. -/
theorem trim_eq_empty {s : String} : trim s = "" ↔ isBlank s = true := by
  have hstart (l : List Char) : trimStart l = [] ↔ ∀ c ∈ l, isSpace c = true := List.dropWhile_eq_nil_iff
  rw [isBlank, List.all_eq_true, trim, String.ofList_eq_empty_iff, trimEnd_eq, List.reverse_eq_nil_iff, hstart]
  simp only [List.mem_reverse]
  refine ⟨fun h => ?_, fun h c hc => h c (List.dropWhile_subset _ hc)⟩
  -- What is left at the start is no white space.
  cases hrest : trimStart s.toList with
  | nil => exact (hstart _).mp hrest
  | cons c rest =>
    have hc := first_trimStart s.toList c (by rw [hrest]; rfl)
    rw [h c (by rw [hrest]; exact List.mem_cons_self ..)] at hc
    cases hc

theorem isEmpty_trim (s : String) : (trim s).isEmpty = isBlank s := by
  rw [Bool.eq_iff_iff, String.isEmpty_iff, trim_eq_empty]

theorem mem_of_mem_trim {s : List Char} {c : Char} (h : c ∈ trimEnd (trimStart s)) : c ∈ s := by
  rw [trimEnd_eq, List.mem_reverse] at h
  exact List.dropWhile_subset _ (List.mem_reverse.mp (List.dropWhile_subset _ h))

/-! ### Folded codes -/

theorem bare_lowercaseAfter {s : List Char} (h : Bare s) (before : List Char) :
    Bare (lowercaseAfter before s) := by
  constructor
  · cases s with
    | nil => exact h.first
    | cons c s =>
      obtain ⟨d, hd, hne, hspace⟩ := lowercaseAfter_cons before s c
      rw [hd, List.head?_append_of_ne_nil _ hne]
      intro e he
      rw [hspace e (List.mem_of_mem_head? he)]
      exact h.first c rfl
  · rcases List.eq_nil_or_concat s with rfl | ⟨s', c, rfl⟩
    · exact h.last
    · rw [List.concat_eq_append] at h ⊢
      obtain ⟨zs, hzs⟩ := lowercaseAfter_append before s' [c]
      obtain ⟨d, hd, hne, hspace⟩ := lowercaseAfter_cons (s'.reverse ++ before) [] c
      rw [hzs, hd, lowercaseAfter, List.append_nil, List.getLast?_append_of_ne_nil _ hne]
      intro e he
      rw [hspace e (List.mem_of_mem_getLast? he)]
      exact h.last c (by simp)

/-- Text is bare if it is with its letters A to Z in lower case. -/
theorem bare_of_map {m l : List Char} (hl : Bare l) (h : m.map Char.toLower = l) : Bare m := by
  subst h
  constructor
  · intro c hc
    rw [← (lower_toLower c).2.1]
    exact hl.first _ (by rw [List.head?_map, hc]; rfl)
  · intro c hc
    rw [← (lower_toLower c).2.1]
    exact hl.last _ (by rw [List.getLast?_map, hc]; rfl)

theorem toList_foldedCode (s : String) :
    (foldedCode s).toList = lowercaseAfter [] (trimEnd (trimStart s.toList)) := by
  simp [foldedCode, lowercase, trim]

theorem lowerText_foldedCode (s : String) : LowerText (foldedCode s).toList := by
  rw [toList_foldedCode]
  exact lowerText_lowercaseAfter _ _

theorem bare_foldedCode (s : String) : Bare (foldedCode s).toList := by
  rw [toList_foldedCode]
  exact bare_lowercaseAfter (bare_trim _) _

/-- A text that is a folded code but for capitals A to Z has that folded code. -/
theorem foldedCode_of_asciiLowercase {s w : String} (h : asciiLowercase s = foldedCode w) :
    foldedCode s = foldedCode w := by
  have hmap : s.toList.map Char.toLower = (foldedCode w).toList := by
    rw [← h, asciiLowercase, String.toList_ofList]
  have hlower := lowercaseAfter_of_map (lowerText_foldedCode w) hmap [] []
  rw [List.append_nil, lowercaseAfter, List.append_nil] at hlower
  apply String.toList_injective
  rw [toList_foldedCode, trim_of_bare (bare_of_map (bare_foldedCode w) hmap), hlower]

/-- A folded code is its own. -/
theorem foldedCode_foldedCode (s : String) : foldedCode (foldedCode s) = foldedCode s := by
  refine foldedCode_of_asciiLowercase ?_
  rw [asciiLowercase, (lowerText_foldedCode s).map_toLower, String.ofList_toList]

/-- The folded code of a text is trimmed, and there is none only of white space. -/
theorem trim_foldedCode (s : String) : trim (foldedCode s) = foldedCode s := by
  rw [trim, trim_of_bare (bare_foldedCode s), String.ofList_toList]

theorem foldedCode_ne_empty {s : String} (h : isBlank s = false) : foldedCode s ≠ "" := by
  intro hnone
  have htrim : trimEnd (trimStart s.toList) ≠ [] := by
    intro hnil
    have hempty : trim s = "" := by rw [trim, hnil]
    rw [trim_eq_empty.mp hempty] at h
    cases h
  obtain ⟨c, rest, hcons⟩ := List.exists_cons_of_ne_nil htrim
  obtain ⟨d, hd, hne, -⟩ := lowercaseAfter_cons [] rest c
  have hlist := toList_foldedCode s
  rw [hnone, hcons, hd] at hlist
  exact hne (List.append_eq_nil_iff.mp hlist.symm).1

theorem occursIn_iff {α : Type} [BEq α] [LawfulBEq α] {part s : List α} :
    occursIn part s = true ↔ part <:+: s := by
  induction s with
  | nil => simp [occursIn]
  | cons a s ih => rw [occursIn, Bool.or_eq_true, List.isPrefixOf_iff_prefix, ih, List.infix_cons_iff]

/-- A text with a stretch that is a folded code but for capitals A to Z has that stretch in its own
folded code. -/
theorem foldedCode_of_stretch {s w : String} {a m b : List Char} (hs : s.toList = a ++ m ++ b)
    (hm : m.map Char.toLower = (foldedCode w).toList) :
    occursIn (foldedCode w).toList (foldedCode s).toList = true := by
  rw [occursIn_iff, toList_foldedCode s, hs]
  by_cases hne : m = []
  · subst hne
    rw [← hm]
    exact List.nil_infix
  · have htrim := trim_append hne (bare_of_map (bare_foldedCode w) hm) a b
    obtain ⟨zs, hzs⟩ := lowercaseAfter_append [] (trimStart a) (m ++ trimEnd b)
    rw [htrim, List.append_assoc, hzs, lowercaseAfter_of_map (lowerText_foldedCode w) hm]
    exact ⟨zs, _, by rw [List.append_assoc]⟩

/-! ### Match keys -/

/-- The words of a text have no other characters than the text. -/
theorem mem_of_mem_wordsFrom {word s w : List Char} {c : Char} (hw : w ∈ wordsFrom word s) (hc : c ∈ w) :
    c ∈ word ∨ c ∈ s := by
  induction s generalizing word with
  | nil =>
    rw [wordsFrom] at hw
    split at hw
    · cases hw
    · rw [List.mem_singleton] at hw
      subst hw
      exact .inl (List.mem_reverse.mp hc)
  | cons d s ih =>
    rw [wordsFrom] at hw
    split at hw
    · split at hw
      · rcases ih hw with h | h
        · cases h
        · exact .inr (List.mem_cons_of_mem _ h)
      · rcases List.mem_cons.mp hw with rfl | hw
        · exact .inl (List.mem_reverse.mp hc)
        · rcases ih hw with h | h
          · cases h
          · exact .inr (List.mem_cons_of_mem _ h)
    · rcases ih hw with h | h
      · rcases List.mem_cons.mp h with rfl | h
        · exact .inr (List.mem_cons_self ..)
        · exact .inl h
      · exact .inr (List.mem_cons_of_mem _ h)

theorem mem_joinWords {ws : List (List Char)} {c : Char} (h : c ∈ joinWords ws) :
    c = ' ' ∨ ∃ w ∈ ws, c ∈ w := by
  unfold joinWords at h
  induction ws with
  | nil => cases h
  | cons w ws ih =>
    cases ws with
    | nil =>
      rw [List.intercalate_singleton] at h
      exact .inr ⟨w, List.mem_cons_self .., h⟩
    | cons v ws =>
      rw [List.intercalate_cons_cons, List.mem_append, List.mem_append, List.mem_singleton] at h
      rcases h with (h | h) | h
      · exact .inr ⟨w, List.mem_cons_self .., h⟩
      · exact .inl h
      · rcases ih h with h | ⟨u, hu, h⟩
        · exact .inl h
        · exact .inr ⟨u, List.mem_cons_of_mem _ hu, h⟩

theorem mem_keyCharacters {c d : Char} (h : d ∈ keyCharacters c) : d = c ∨ d = 's' ∨ d = ' ' := by
  unfold keyCharacters at h
  split at h
  · simp only [List.mem_cons, List.not_mem_nil, or_false, or_self] at h
    exact .inr (.inl h)
  split at h
  · cases h
  split at h
  · exact .inl (List.mem_singleton.mp h)
  split at h
  · exact .inr (.inr (List.mem_singleton.mp h))
  · cases h

/-- What a match key is made of: spaces, and what it keeps of a text in lower case. -/
theorem kept_of_mem_matchKey {s : String} {d : Char} (h : d ∈ (matchKey s).toList) :
    d = ' ' ∨ ∃ c ∈ s.toList, ∃ e ∈ lower c, d ∈ keyCharacters e := by
  rw [matchKey, String.toList_ofList, matchKeyChars] at h
  rcases mem_joinWords h with rfl | ⟨w, hw, hd⟩
  · exact .inl rfl
  · have hkey := (mem_of_mem_wordsFrom hw hd).resolve_left List.not_mem_nil
    obtain ⟨e, he, hkept⟩ := List.mem_flatMap.mp hkey
    obtain ⟨c, hc, he⟩ := List.mem_flatMap.mp he
    exact .inr ⟨c, hc, e, he, hkept⟩

theorem lowerText_matchKey (s : String) : LowerText (matchKey s).toList := by
  intro d hd
  rcases kept_of_mem_matchKey hd with rfl | ⟨c, -, e, he, hkept⟩
  · exact lower_singly ' ' (by decide)
  · rcases mem_keyCharacters hkept with rfl | rfl | rfl
    · exact lower_of_mem_lower he
    · exact lower_singly 's' (by decide)
    · exact lower_singly ' ' (by decide)

end Catalogue.Text
