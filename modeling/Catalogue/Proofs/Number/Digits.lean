import Catalogue.Number.Integer
import Mathlib.Algebra.Order.Ring.Nat

/-! Decimal digits. A number is the value of its digits, so no two numbers have the
same digits; zeros behind them multiply by powers of ten, zeros before them change
nothing. An integer is read back from its text. -/
namespace Catalogue.Number

/-! ### The value of digits -/

theorem digitsValue_decimalDigits (n : Nat) : digitsValue (decimalDigits n) = n :=
  Nat.ofDigitChars_ten_toDigits

theorem decimalDigits_injective {m n : Nat} (h : decimalDigits m = decimalDigits n) : m = n := by
  rw [← digitsValue_decimalDigits m, h, digitsValue_decimalDigits]

theorem digitsValue_append (a b : List Char) :
    digitsValue (a ++ b) = digitsValue a * 10 ^ b.length + digitsValue b := by
  show Nat.ofDigitChars 10 (a ++ b) 0 = _
  rw [Nat.ofDigitChars_append, Nat.ofDigitChars_eq_ofDigitChars_zero, Nat.mul_comm]
  rfl

theorem digitsValue_zeros (n : Nat) : digitsValue (List.replicate n '0') = 0 := by
  show Nat.ofDigitChars 10 (List.replicate n '0') 0 = 0
  rw [Nat.ofDigitChars_replicate_zero, Nat.mul_zero]

/-- Zeros behind digits. -/
theorem digitsValue_append_zeros (ds : List Char) (n : Nat) :
    digitsValue (ds ++ List.replicate n '0') = digitsValue ds * 10 ^ n := by
  rw [digitsValue_append, digitsValue_zeros, List.length_replicate, Nat.add_zero]

/-- Zeros before digits. -/
theorem digitsValue_zeros_append (ds : List Char) (n : Nat) :
    digitsValue (List.replicate n '0' ++ ds) = digitsValue ds := by
  rw [digitsValue_append, digitsValue_zeros, Nat.zero_mul, Nat.zero_add]

/-! ### Which digits -/

theorem isDigit_of_mem_decimalDigits {n : Nat} {c : Char} (h : c ∈ decimalDigits n) :
    '0' ≤ c ∧ c ≤ '9' := by
  have hd : c.isDigit = true := Nat.isDigit_of_mem_toDigits (by decide) (by decide) h
  simpa [Char.isDigit, Char.le_def] using hd

theorem decimalDigits_ne_nil (n : Nat) : decimalDigits n ≠ [] := Nat.toDigits_ne_nil

theorem length_decimalDigits_pos (n : Nat) : 0 < (decimalDigits n).length := Nat.length_toDigits_pos

theorem length_decimalDigits_le_iff {n k : Nat} (hk : 0 < k) :
    (decimalDigits n).length ≤ k ↔ n < 10 ^ k :=
  Nat.length_toDigits_le_iff (by decide) hk

theorem decimalDigits_of_lt {n : Nat} (h : n < 10) : decimalDigits n = [Nat.digitChar n] :=
  Nat.toDigits_of_lt_base h

theorem decimalDigits_of_le {n : Nat} (h : 10 ≤ n) :
    decimalDigits n = decimalDigits (n / 10) ++ [Nat.digitChar (n % 10)] :=
  Nat.toDigits_of_base_le (by decide) h

/-- No digits but those of zero start with a zero. -/
theorem head_decimalDigits {n : Nat} (h : 0 < n) : (decimalDigits n).head? ≠ some '0' := by
  induction n using Nat.strongRecOn with
  | ind n ih =>
    by_cases h10 : n < 10
    · rw [decimalDigits_of_lt h10]
      have hn : n = 1 ∨ n = 2 ∨ n = 3 ∨ n = 4 ∨ n = 5 ∨ n = 6 ∨ n = 7 ∨ n = 8 ∨ n = 9 := by omega
      rcases hn with rfl | rfl | rfl | rfl | rfl | rfl | rfl | rfl | rfl <;> decide
    · have hrest := ih (n / 10) (by omega) (by omega)
      rw [decimalDigits_of_le (by omega), List.head?_append]
      cases hd : (decimalDigits (n / 10)).head? with
      | none => exact absurd (List.head?_eq_none_iff.mp hd) (decimalDigits_ne_nil _)
      | some c => rwa [hd] at hrest

/-- Zeros behind the digits of a positive number are digits of a number too. -/
theorem decimalDigits_mul_pow {n : Nat} (h : 0 < n) (k : Nat) :
    decimalDigits (n * 10 ^ k) = decimalDigits n ++ List.replicate k '0' := by
  induction k with
  | zero => simp
  | succ k ih =>
    have hpos : 0 < n * 10 ^ k := Nat.mul_pos h (Nat.pow_pos (by decide))
    have hstep : n * 10 ^ (k + 1) = 10 * (n * 10 ^ k) := by
      rw [Nat.pow_succ, ← Nat.mul_assoc, Nat.mul_comm]
    rw [hstep, decimalDigits_of_le (by omega), Nat.mul_div_cancel_left _ (by decide), ih,
      Nat.mul_mod_right, List.replicate_succ', List.append_assoc]
    rfl

theorem digitsValue_lt {ds : List Char} (h : ∀ c ∈ ds, c ≤ '9') : digitsValue ds < 10 ^ ds.length := by
  induction ds with
  | nil => decide
  | cons d ds ih =>
    obtain ⟨hfirst, hlater⟩ := List.forall_mem_cons.mp h
    have hnine : d.toNat ≤ 57 := hfirst
    have hdigit : digitsValue [d] ≤ 9 := by
      show 10 * 0 + (d.toNat - 48) ≤ 9
      omega
    have hrest := ih hlater
    have hsplit : digitsValue (d :: ds) = digitsValue [d] * 10 ^ ds.length + digitsValue ds := digitsValue_append [d] ds
    have hmul := Nat.mul_le_mul_right (10 ^ ds.length) hdigit
    rw [hsplit, List.length_cons, Nat.pow_succ]
    omega

/-! ### Reading integers -/

theorem parseDigits?_decimalDigits (n : Nat) : parseDigits? (decimalDigits n) = some n := by
  have hdigits : (decimalDigits n).any (fun c => c < '0' || '9' < c) = false := by
    rw [List.any_eq_false]
    intro c hc
    obtain ⟨hlo, hhi⟩ := isDigit_of_mem_decimalDigits hc
    simp [Char.not_lt.mpr hlo, Char.not_lt.mpr hhi]
  rw [parseDigits?, hdigits, List.isEmpty_eq_false_iff.mpr (decimalDigits_ne_nil n),
    digitsValue_decimalDigits]
  rfl

/-- A text of digits alone. -/
theorem parseDigits?_eq_some {ds : List Char} {n : Nat} :
    parseDigits? ds = some n ↔ ds ≠ [] ∧ (∀ c ∈ ds, '0' ≤ c ∧ c ≤ '9') ∧ n = digitsValue ds := by
  rw [parseDigits?]
  split <;> rename_i h
  · refine iff_of_false (Option.some_ne_none n).symm fun ⟨hne, hds, _⟩ => ?_
    rcases (Bool.or_eq_true ..).mp h with hnil | hany
    · exact hne (List.isEmpty_iff.mp hnil)
    · obtain ⟨c, hc, hout⟩ := List.any_eq_true.mp hany
      rw [Bool.or_eq_true, decide_eq_true_eq, decide_eq_true_eq] at hout
      exact hout.elim (Char.not_lt.mpr (hds c hc).1) (Char.not_lt.mpr (hds c hc).2)
  · simp only [Bool.or_eq_true, not_or, List.isEmpty_iff, List.any_eq_true, not_exists, not_and, decide_eq_true_eq,
      Char.not_lt] at h
    rw [Option.some.injEq, and_iff_right h.1, and_iff_right h.2, eq_comm]

theorem mem_intText {n : Int} {c : Char} (h : c ∈ intText n) : c = '-' ∨ '0' ≤ c ∧ c ≤ '9' := by
  unfold intText at h
  split at h
  · rcases List.mem_cons.mp h with hc | hc
    · exact .inl hc
    · exact .inr (isDigit_of_mem_decimalDigits hc)
  · exact .inr (isDigit_of_mem_decimalDigits h)

/-- Digits spell their value. -/
theorem parseInteger?_digits {r : IntRange} {ds : List Char} (hne : ds ≠ []) (hds : ∀ c ∈ ds, '0' ≤ c ∧ c ≤ '9')
    (hrange : r.holds (digitsValue ds) = true) : parseInteger? r (String.ofList ds) = some (digitsValue ds : Int) := by
  have hread := parseDigits?_eq_some.mpr ⟨hne, hds, rfl⟩
  unfold parseInteger?
  rw [String.toList_ofList]
  split
  · exact absurd (hds '+' (List.mem_cons_self ..)) (by decide)
  · exact absurd (hds '-' (List.mem_cons_self ..)) (by decide)
  · simp only [hread, Option.map_some, Option.bind_eq_bind, Option.bind_some, Int.ofNat_eq_natCast, hrange, if_true]

/-- An integer without a minus is a natural number, and has no more digits than its text. -/
theorem parseInteger?_bounds {r : IntRange} {s : String} {n : Int} (h : parseInteger? r s = some n)
    (hminus : '-' ∉ s.toList) : 0 ≤ n ∧ n < 10 ^ s.toList.length := by
  have hread {ds : List Char} (h : ((parseDigits? ds).map Int.ofNat).bind
      (fun k => if r.holds k = true then some k else none) = some n) : 0 ≤ n ∧ n < 10 ^ ds.length := by
    obtain ⟨k, hk, hrange⟩ := Option.bind_eq_some_iff.mp h
    obtain ⟨k, hdigits, rfl⟩ := Option.map_eq_some_iff.mp hk
    obtain ⟨-, hds, rfl⟩ := parseDigits?_eq_some.mp hdigits
    obtain rfl : Int.ofNat (digitsValue ds) = n := by
      split at hrange
      · exact Option.some.inj hrange
      · cases hrange
    have hvalue : ((digitsValue ds : Nat) : Int) < 10 ^ ds.length := by
      exact_mod_cast digitsValue_lt fun c hc => (hds c hc).2
    exact ⟨Int.natCast_nonneg _, hvalue⟩
  simp only [parseInteger?, Option.bind_eq_bind] at h
  split at h
  · rename_i ds hs
    obtain ⟨hlow, hhigh⟩ := hread h
    refine ⟨hlow, hhigh.trans_le ?_⟩
    rw [hs, List.length_cons]
    exact_mod_cast Nat.pow_le_pow_right (by decide) (Nat.le_succ ds.length)
  · rename_i ds hs
    rw [hs] at hminus
    exact absurd (List.mem_cons_self ..) hminus
  · exact hread h

/-- An integer is read from its decimal text if it is in the range. -/
theorem parseInteger?_intText {r : IntRange} (hlow : r.low < 0) (n : Int) :
    parseInteger? r (String.ofList (intText n)) = if r.holds n then some n else none := by
  unfold parseInteger? intText
  rw [String.toList_ofList]
  by_cases hn : n < 0
  · have hvalue : -(n.natAbs : Int) = n := by omega
    rw [if_pos hn]
    simp only [if_pos hlow, parseDigits?_decimalDigits, Option.pure_def, Option.map_some, Option.bind_eq_bind,
      Option.bind_some, hvalue]
  · have hvalue : (n.natAbs : Int) = n := by omega
    have hsign {c : Char} {ds : List Char} (hds : decimalDigits n.natAbs = c :: ds) : '0' ≤ c ∧ c ≤ '9' :=
      isDigit_of_mem_decimalDigits (by rw [hds]; exact List.mem_cons_self ..)
    rw [if_neg hn]
    split
    · rename_i hds
      exact absurd (hsign hds) (by decide)
    · rename_i hds
      exact absurd (hsign hds) (by decide)
    · simp only [parseDigits?_decimalDigits, Option.map_some, Option.bind_eq_bind, Option.bind_some,
        Int.ofNat_eq_natCast, hvalue]

/-- No two integers have one decimal text. -/
theorem intText_injective : Function.Injective intText := by
  intro m n h
  let range : IntRange := ⟨min (min m n) (-1), max m n⟩
  have hlow : range.low < 0 := by simp [range]
  have hm := parseInteger?_intText hlow m
  have hn := parseInteger?_intText hlow n
  rw [if_pos (by simp [IntRange.holds, range])] at hm hn
  rw [h, hn] at hm
  exact (Option.some.inj hm).symm

end Catalogue.Number
