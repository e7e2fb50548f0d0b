import Catalogue.Proofs.Index.Meaning
import Catalogue.Proofs.Text.Case

/-! Patterns of texts that occur somewhere. A text matches the pattern of another if
the other stands in it but for the case of letters A to Z (`fitsPattern_containing`).
That is so for texts that patterns are read in as they are (`Plain`). -/
namespace Catalogue.Index

open Text

namespace Like

/-! ### Reading a pattern -/

theorem pieces?_cons {c : Char} (hrun : c ≠ '%') (hone : c ≠ '_') (hself : c ≠ '\\') (rest : List Char) :
    pieces? (c :: rest) = (pieces? rest).map (.literal c :: ·) := by
  conv_lhs => unfold pieces?
  split <;> simp_all

/-- The pieces of an escaped text are its characters. -/
theorem pieces?_escaped (w rest : List Char) :
    pieces? (w.flatMap escaped ++ rest) = (pieces? rest).map (w.map .literal ++ ·) := by
  induction w with
  | nil => simp
  | cons c w ih =>
    have hcons : pieces? ((c :: w).flatMap escaped ++ rest) =
        (pieces? (w.flatMap escaped ++ rest)).map (.literal c :: ·) := by
      rw [List.flatMap_cons, List.append_assoc]
      by_cases hc : c = '%' ∨ c = '_' ∨ c = '\\'
      · rcases hc with rfl | rfl | rfl <;> simp [escaped, pieces?]
      · push Not at hc
        have hescaped : escaped c = [c] := by simp [escaped, hc]
        rw [hescaped]
        exact pieces?_cons hc.1 hc.2.1 hc.2.2 _
    rw [hcons, ih, Option.map_map]
    rfl

theorem pieces?_containing (w : String) :
    pieces? (containing w).toList = some (.anyRun :: (w.toList.map .literal ++ [.anyRun])) := by
  rw [containing, String.toList_ofList, List.append_assoc]
  show (pieces? (w.toList.flatMap escaped ++ ['%'])).map _ = _
  rw [pieces?_escaped]
  rfl

/-! ### Matching -/

/-- A run stands for any start of a text. -/
theorem covers_anyRun {ps : List Piece} {s : List Char} :
    covers (.anyRun :: ps) s = true ↔ ∃ a b, s = a ++ b ∧ covers ps b = true := by
  induction s with
  | nil =>
    rw [covers]
    constructor
    · exact fun h => ⟨[], [], rfl, h⟩
    · rintro ⟨a, b, hs, h⟩
      rw [List.nil_eq, List.append_eq_nil_iff] at hs
      rwa [hs.2] at h
  | cons c s ih =>
    rw [covers, Bool.or_eq_true, ih]
    constructor
    · rintro (h | ⟨a, b, rfl, h⟩)
      · exact ⟨[], c :: s, rfl, h⟩
      · exact ⟨c :: a, b, rfl, h⟩
    · rintro ⟨a, b, hs, h⟩
      cases a with
      | nil => exact .inl (hs ▸ h)
      | cons d a =>
        obtain ⟨rfl, rfl⟩ := List.cons.inj hs
        exact .inr ⟨a, b, rfl, h⟩

/-- Characters stand for themselves, or for the same letters in the other case. -/
theorem covers_literals {w : List Char} {ps : List Piece} {s : List Char} :
    covers (w.map .literal ++ ps) s = true ↔
      ∃ m b, s = m ++ b ∧ m.map Char.toLower = w.map Char.toLower ∧ covers ps b = true := by
  induction w generalizing s with
  | nil =>
    constructor
    · exact fun h => ⟨[], s, rfl, rfl, h⟩
    · rintro ⟨m, b, rfl, hm, h⟩
      rw [List.map_nil, List.map_eq_nil_iff] at hm
      subst hm
      exact h
  | cons p w ih =>
    cases s with
    | nil =>
      rw [List.map_cons, List.cons_append, covers]
      constructor
      · intro h
        cases h
      · rintro ⟨m, b, hs, hm, -⟩
        rw [List.nil_eq, List.append_eq_nil_iff] at hs
        rw [hs.1] at hm
        cases hm
    | cons c s =>
      rw [List.map_cons, List.cons_append, covers, Bool.and_eq_true, beq_iff_eq, ih]
      constructor
      · rintro ⟨hc, m, b, rfl, hm, h⟩
        exact ⟨c :: m, b, rfl, by rw [List.map_cons, List.map_cons, hc, hm], h⟩
      · rintro ⟨m, b, hs, hm, h⟩
        cases m with
        | nil => cases hm
        | cons d m =>
          obtain ⟨rfl, rfl⟩ := List.cons.inj hs
          obtain ⟨hc, hm⟩ := List.cons.inj hm
          exact ⟨hc.symm, m, b, rfl, hm, h⟩

theorem covers_last (s : List Char) : covers [.anyRun] s = true := by
  rw [covers_anyRun]
  exact ⟨s, [], (List.append_nil s).symm, by rw [covers]; rfl⟩

theorem beforeZero_eq_self {s : List Char} (h : '\x00' ∉ s) : beforeZero s = s :=
  List.takeWhile_eq_self_iff.mpr fun c hc => by simpa using fun hzero : c = '\x00' => h (hzero ▸ hc)

/-- A pattern has the characters of its text, and the three that have a meaning in patterns. -/
theorem mem_containing {w : String} {c : Char} (h : c ∈ (containing w).toList) :
    c ∈ ['%', '_', '\\'] ∨ c ∈ w.toList := by
  simp only [containing, String.toList_ofList, List.mem_append, List.mem_singleton, List.mem_flatMap] at h
  rcases h with (rfl | ⟨d, hd, hc⟩) | rfl
  · exact .inl (by simp)
  · unfold escaped at hc
    split at hc
    · rcases List.mem_cons.mp hc with rfl | hc
      · exact .inl (by simp)
      · exact .inr (List.mem_singleton.mp hc ▸ hd)
    · exact .inr (List.mem_singleton.mp hc ▸ hd)
  · exact .inl (by simp)

/-- A text matches the pattern of another if the other stands in it, but for capitals A to Z. -/
theorem holds_containing {w : String} {s : List Char} (hw : '\x00' ∉ w.toList) (hs : '\x00' ∉ s) :
    holds (containing w).toList s = true ↔
      ∃ a m b, s = a ++ m ++ b ∧ m.map Char.toLower = w.toList.map Char.toLower := by
  have hpattern : '\x00' ∉ (containing w).toList := fun h =>
    (mem_containing h).elim (fun hmark => absurd hmark (by decide)) hw
  rw [holds, beforeZero_eq_self hpattern, beforeZero_eq_self hs, pieces?_containing]
  simp only [covers_anyRun, covers_literals, covers_last, and_true]
  constructor
  · rintro ⟨a, _, rfl, m, b, rfl, hm⟩
    exact ⟨a, m, b, (List.append_assoc ..).symm, hm⟩
  · rintro ⟨a, m, b, rfl, hm⟩
    exact ⟨a, m ++ b, List.append_assoc .., m, b, rfl, hm⟩

end Like

/-! ### Plain text -/

/-- A character that patterns read as it is: neither the zero character, at which they stop, nor one
of the two that they take for another. -/
def PlainChar (c : Char) : Prop := c ≠ '\x00' ∧ c ≠ '\uFFFE' ∧ c ≠ '\uFFFF'

/-- Text of plain characters. -/
def Plain (s : List Char) : Prop := ∀ c ∈ s, PlainChar c

/-- Lower-case forms that lie elsewhere are plain. -/
theorem shifted_plain : (lowercaseShifts.all fun run =>
    run.clearOf ⟨0, 0, 1, 0⟩ && run.clearOf ⟨0xFFFE, 0xFFFF, 1, 0⟩) = true := by
  decide +kernel

theorem plainChar_iff {c : Char} : PlainChar c ↔ c.toNat ≠ 0 ∧ c.toNat ≠ 0xFFFE ∧ c.toNat ≠ 0xFFFF := by
  have hcode : ∀ d : Char, c ≠ d ↔ c.toNat ≠ d.toNat := fun d =>
    not_congr ⟨fun h => h ▸ rfl, fun h => Char.toNat_inj.mp h⟩
  rw [PlainChar, hcode, hcode, hcode]
  rfl

/-- Lower case takes a character to itself or to plain ones. -/
theorem eq_or_plainChar_of_mem_lower {c d : Char} (h : d ∈ lower c) : d = c ∨ PlainChar d := by
  unfold lower at h
  split at h
  · simp only [List.mem_cons, List.not_mem_nil, or_false] at h
    rcases h with rfl | rfl <;> exact .inr (plainChar_iff.mpr (by decide))
  · rw [List.mem_singleton] at h
    rcases shiftCase_eq (c := c) with ⟨-, heq⟩ | ⟨run, hrun, hholds, heq⟩
    · exact .inl (h.trans heq)
    · have hplain := List.all_eq_true.mp shifted_plain run hrun
      rw [Bool.and_eq_true] at hplain
      have hzero := CaseShift.holds_target hplain.1 hholds
      have hloose := CaseShift.holds_target hplain.2 hholds
      rw [h, heq, plainChar_iff, toNat_shifted hrun hholds]
      simp only [CaseShift.holds, Nat.mod_one, beq_self_eq_true, Bool.and_true, Bool.and_eq_false_iff,
        decide_eq_false_iff_not] at hzero hloose
      omega

theorem plainChar_of_mem_lower {c d : Char} (hc : PlainChar c) (h : d ∈ lower c) : PlainChar d :=
  (eq_or_plainChar_of_mem_lower h).elim (fun heq => heq ▸ hc) id

theorem plain_foldedCode {s : String} (h : Plain s.toList) : Plain (foldedCode s).toList := by
  intro d hd
  rw [toList_foldedCode] at hd
  rcases mem_lowercaseAfter hd with rfl | ⟨c, hc, hd⟩
  · exact plainChar_iff.mpr (by decide)
  · exact plainChar_of_mem_lower (h c (mem_of_mem_trim hc)) hd

/-- Letters and numbers are plain. -/
theorem plain_alphanumerics : ∀ n ∈ [0, 0xFFFE, 0xFFFF], alphanumerics.any (·.holds n) = false := by
  decide +kernel

theorem plainChar_of_mem_keyCharacters {c d : Char} (h : d ∈ keyCharacters c) : PlainChar d := by
  unfold keyCharacters at h
  split at h
  · simp only [List.mem_cons, List.not_mem_nil, or_false, or_self] at h
    exact h ▸ plainChar_iff.mpr (by decide)
  split at h
  · cases h
  split at h
  · rename_i hkept
    rw [List.mem_singleton.mp h]
    rw [Bool.or_eq_true, decide_eq_true_eq] at hkept
    rcases hkept with halphanumeric | rfl
    · refine plainChar_iff.mpr ⟨?_, ?_, ?_⟩
      all_goals
        intro hcode
        rw [CharSet.holds, hcode, plain_alphanumerics _ (by simp)] at halphanumeric
        cases halphanumeric
    · exact plainChar_iff.mpr (by decide)
  split at h
  · exact List.mem_singleton.mp h ▸ plainChar_iff.mpr (by decide)
  · cases h

/-- Match keys are plain, whatever they are keys of. -/
theorem plain_matchKey (s : String) : Plain (matchKey s).toList := by
  intro d hd
  rcases kept_of_mem_matchKey hd with rfl | ⟨c, -, e, -, hkept⟩
  · exact plainChar_iff.mpr (by decide)
  · exact plainChar_of_mem_keyCharacters hkept

theorem plain_asciiLowercase {s : String} (h : Plain s.toList) : Plain (asciiLowercase s).toList := by
  intro d hd
  rw [asciiLowercase, String.toList_ofList] at hd
  obtain ⟨c, hc, rfl⟩ := List.mem_map.mp hd
  by_cases hupper : 65 ≤ c.toNat ∧ c.toNat ≤ 90
  · have hcapitals : ∀ n ∈ List.range' 65 26, (Char.ofNat n).toLower.toNat = n + 32 := by decide
    have hcode := hcapitals c.toNat (by rw [List.mem_range'_1]; omega)
    rw [Char.ofNat_toNat] at hcode
    rw [plainChar_iff, hcode]
    omega
  · rw [toLower_of_not_upper hupper]
    exact h c hc

theorem looseForm_of_plain {c : Char} (h : PlainChar c) : looseForm c = c := by
  simp [looseForm, h.2.1, h.2.2]

theorem Plain.map_looseForm {s : List Char} (h : Plain s) : s.map looseForm = s := by
  conv_rhs => rw [← List.map_id s]
  exact List.map_congr_left fun c hc => looseForm_of_plain (h c hc)

theorem Plain.zero_notMem {s : List Char} (h : Plain s) : '\x00' ∉ s := fun hzero => (h _ hzero).1 rfl

theorem plain_containing {w : String} (h : Plain w.toList) : Plain (Like.containing w).toList := by
  have hmark : ∀ c ∈ ['%', '_', '\\'], PlainChar c := by simp [PlainChar]
  exact fun c hc => (Like.mem_containing hc).elim (hmark c) (h c)

/-- Plain texts are compared as they are. -/
theorem fitsPattern_containing {w s : String} (hw : Plain w.toList) (hs : Plain s.toList) :
    fitsPattern (Like.containing w) s = true ↔
      ∃ a m b, s.toList = a ++ m ++ b ∧ m.map Char.toLower = w.toList.map Char.toLower := by
  rw [fitsPattern, (plain_containing hw).map_looseForm, hs.map_looseForm,
    Like.holds_containing hw.zero_notMem hs.zero_notMem]

/-- A match key matches the pattern of another if the other stands in it. -/
theorem fitsPattern_matchKey (v w : String) :
    fitsPattern (Like.containing (matchKey v)) (matchKey w) = true ↔
      (matchKey v).toList <:+: (matchKey w).toList := by
  rw [fitsPattern_containing (plain_matchKey v) (plain_matchKey w), (lowerText_matchKey v).map_toLower]
  constructor
  · rintro ⟨a, m, b, hw, hm⟩
    have hlower : LowerText m := fun c hc => lowerText_matchKey w c (by simp [hw, hc])
    exact ⟨a, b, by rw [hw, ← hm, hlower.map_toLower]⟩
  · rintro ⟨a, b, hw⟩
    exact ⟨a, _, b, hw.symm, (lowerText_matchKey v).map_toLower⟩

end Catalogue.Index
