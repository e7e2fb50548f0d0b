import Catalogue.Proofs.Number.Digits
import Catalogue.Proofs.Number.Rounding

/-! The fewest digits that read back. What a decimal reads as does not change when zeros
at its end are dropped (`bits_stripZeros`), every neighbour that is tried is one that
reads back, and all digits of a number do (`bits_exact`). So what is chosen reads
back in any case (`bits_shortest`). -/
namespace Catalogue.Number

open Binary64

namespace Decimal

/-! ### What a decimal reads as -/

/-- The magnitude bits of the number nearest to a decimal. -/
def bits (d : Decimal) : Nat :=
  let size : Int := d.size
  if d.digits == 0 then 0
  else if 400 < size + d.exponent then infinityBits
  else if size + d.exponent < -400 then 0
  else ratioBits (scale 10 d.digits 1 d.exponent).1 (scale 10 d.digits 1 d.exponent).2

theorem ofDecimal_eq (negative : Bool) (digits : Nat) (exponent : Int) :
    ofDecimal negative digits exponent = ofMagnitude negative (bits ⟨digits, exponent⟩) := by
  unfold ofDecimal bits
  simp only [apply_ite (ofMagnitude negative)]
  rfl

theorem ratioBits_le (num den : Nat) : ratioBits num den ≤ infinityBits := by
  unfold ratioBits
  split
  · exact Nat.zero_le _
  · exact Nat.min_le_right _ _

theorem bits_le (d : Decimal) : d.bits ≤ infinityBits := by
  unfold bits
  show (if _ then _ else _) ≤ _
  split
  · exact Nat.zero_le _
  split
  · exact Nat.le_refl _
  split
  · exact Nat.zero_le _
  · exact ratioBits_le _ _

theorem magnitude_ofMagnitude {negative : Bool} {n : Nat} (h : n < signBit) :
    (ofMagnitude negative n).magnitude = n := by
  simp only [magnitude, ofMagnitude, UInt64.toNat_ofNat', signBit] at h ⊢
  cases negative <;> simp <;> omega

/-- A decimal reads back as a number if it reads as its magnitude. -/
theorem readsBack_iff {x : Binary64} {d : Decimal} : readsBack x d = true ↔ d.bits = x.magnitude := by
  have hbits : d.bits < signBit := Nat.lt_of_le_of_lt (bits_le d) (by decide)
  have hmagnitude : x.magnitude < signBit := Nat.mod_lt _ (by decide)
  rw [readsBack, ofDecimal_eq, beq_iff_eq]
  constructor
  · intro h
    have := congrArg magnitude h
    rwa [magnitude_ofMagnitude hbits, magnitude_ofMagnitude hmagnitude] at this
  · exact fun h => congrArg _ h

/-- A number is its sign and its magnitude. -/
theorem ofMagnitude_self (x : Binary64) : ofMagnitude x.negative x.magnitude = x := by
  obtain ⟨b⟩ := x
  have hlt := b.toNat_lt
  by_cases h : signBit ≤ b.toNat
  · have hneg : (⟨b⟩ : Binary64).negative = true := decide_eq_true h
    show (⟨UInt64.ofNat (if (⟨b⟩ : Binary64).negative then signBit + b.toNat % signBit
      else b.toNat % signBit)⟩ : Binary64) = ⟨b⟩
    rw [hneg, if_pos rfl]
    congr 1
    apply UInt64.toNat_inj.mp
    simp only [UInt64.toNat_ofNat', signBit] at h ⊢
    omega
  · have hneg : (⟨b⟩ : Binary64).negative = false := decide_eq_false h
    show (⟨UInt64.ofNat (if (⟨b⟩ : Binary64).negative then signBit + b.toNat % signBit
      else b.toNat % signBit)⟩ : Binary64) = ⟨b⟩
    rw [hneg, if_neg Bool.false_ne_true, Nat.mod_eq_of_lt (not_le.mp h), UInt64.ofNat_toNat]

/-! ### Zeros at the end -/

theorem size_mul_pow {n : Nat} (h : 0 < n) (k : Nat) (e e' : Int) :
    (⟨n * 10 ^ k, e⟩ : Decimal).size = (⟨n, e'⟩ : Decimal).size + k := by
  simp only [size]
  rw [decimalDigits_mul_pow h, List.length_append, List.length_replicate]

/-- Zeros at the end of the digits are a matter of the exponent. -/
theorem bits_mul_pow (n k : Nat) (e : Int) : bits ⟨n * 10 ^ k, e⟩ = bits ⟨n, e + k⟩ := by
  have hten : 0 < 10 ^ k := Nat.pow_pos (by decide)
  by_cases hn : n = 0
  · subst hn
    simp [bits]
  have hne : n * 10 ^ k ≠ 0 := Nat.mul_ne_zero hn hten.ne'
  have hsize : ((⟨n * 10 ^ k, e⟩ : Decimal).size : Int) + e = (⟨n, e + k⟩ : Decimal).size + (e + k) := by
    rw [size_mul_pow (Nat.pos_of_ne_zero hn) k e (e + k)]
    push_cast
    omega
  have hratio : ratioBits (scale 10 (n * 10 ^ k) 1 e).1 (scale 10 (n * 10 ^ k) 1 e).2 =
      ratioBits (scale 10 n 1 (e + k)).1 (scale 10 n 1 (e + k)).2 := by
    refine ratioBits_congr (scale_den_pos (by decide) Nat.one_pos _)
      (scale_den_pos (by decide) Nat.one_pos _) ?_
    rw [scale_value (by decide), scale_value (by decide), zpow_add₀ (by norm_num), zpow_natCast]
    push_cast
    ring
  unfold bits
  simp only [beq_iff_eq, hne, hn, if_false, hsize, hratio]

theorem bits_stripZeros (fuel : Nat) (d : Decimal) : (stripZeros fuel d).bits = d.bits := by
  induction fuel generalizing d with
  | zero => rfl
  | succ fuel ih =>
    rw [stripZeros]
    split
    · rename_i h
      simp only [Bool.and_eq_true, bne_iff_ne, ne_eq, beq_iff_eq] at h
      obtain ⟨digits, exponent⟩ := d
      have hdigits : digits / 10 * 10 ^ 1 = digits := by simp only at h; omega
      rw [ih, ← Nat.cast_one, ← bits_mul_pow, hdigits]
    · rfl

/-! ### All digits -/

/-- All digits of a number have its value. -/
theorem value_exact (x : Binary64) :
    ((exact x).digits : ℚ) * 10 ^ (exact x).exponent = x.mantissa * 2 ^ x.exponent := by
  unfold exact
  split
  · rename_i h
    obtain ⟨k, hk⟩ := Int.eq_ofNat_of_zero_le h
    simp only [hk, Int.toNat_natCast, Nat.pow_eq, Nat.cast_mul, Nat.cast_pow, Nat.cast_ofNat, zpow_natCast,
      zpow_zero, mul_one]
  · rename_i h
    obtain ⟨k, hk⟩ := Int.eq_ofNat_of_zero_le (show 0 ≤ -x.exponent by omega)
    obtain hk' : x.exponent = -(k : Int) := by omega
    simp only [hk', neg_neg, Int.toNat_natCast, Nat.pow_eq, Nat.cast_mul, Nat.cast_pow, Nat.cast_ofNat,
      zpow_neg, zpow_natCast]
    rw [show (10 : ℚ) = 5 * 2 by norm_num, mul_pow]
    field_simp

/-- A number with so many digits lies between the powers of ten that they allow. -/
theorem digits_bounds {d : Decimal} (h : 0 < d.digits) :
    (10 : ℚ) ^ (d.size - 1 + d.exponent) ≤ d.digits * 10 ^ d.exponent ∧
      (d.digits : ℚ) * 10 ^ d.exponent < 10 ^ (d.size + d.exponent) := by
  have hpos : 0 < d.size := length_decimalDigits_pos _
  have hhigh : d.digits < 10 ^ d.size := (length_decimalDigits_le_iff hpos).mp (le_refl d.size)
  have hlow : 10 ^ (d.size - 1) ≤ d.digits := by
    by_cases hone : d.size = 1
    · rw [hone]
      exact h
    · by_contra hlt
      have := (length_decimalDigits_le_iff (show 0 < d.size - 1 by omega)).mpr (not_le.mp hlt)
      change d.size ≤ d.size - 1 at this
      omega
  constructor
  · rw [zpow_add₀ (by norm_num), show (d.size : Int) - 1 = (d.size - 1 : Nat) by omega, zpow_natCast]
    gcongr
    exact_mod_cast hlow
  · rw [zpow_add₀ (by norm_num), zpow_natCast]
    gcongr
    exact_mod_cast hhigh

/-- A finite number other than zero is neither too large nor too small to be read. -/
theorem value_bounds {x : Binary64} (hfinite : x.magnitude < infinityBits) (hx : x.magnitude ≠ 0) :
    (2 : ℚ) ^ (-1074 : Int) ≤ x.mantissa * 2 ^ x.exponent ∧
      (x.mantissa : ℚ) * 2 ^ x.exponent < 2 ^ (1024 : Int) := by
  obtain ⟨hparts, hpos, hbits⟩ := bits_of_parts hx
  have hhidden : hiddenBit = 2 ^ 52 := rfl
  have hinfinity : infinityBits = 2047 * hiddenBit := rfl
  have hlow : -1074 ≤ x.exponent := by omega
  have hsmall : x.mantissa < 2 ^ 53 := by omega
  have hhigh : x.exponent ≤ 971 := by
    by_contra hlt
    have : 2046 * hiddenBit ≤ (x.exponent + 1074).toNat * hiddenBit := Nat.mul_le_mul_right _ (by omega)
    omega
  constructor
  · calc (2 : ℚ) ^ (-1074 : Int) = 1 * 2 ^ (-1074 : Int) := (one_mul _).symm
      _ ≤ x.mantissa * 2 ^ x.exponent := by
          gcongr
          · exact_mod_cast hpos
          · norm_num
  · calc (x.mantissa : ℚ) * 2 ^ x.exponent < 2 ^ (53 : Int) * 2 ^ x.exponent := by
          gcongr
          exact_mod_cast hsmall
      _ ≤ 2 ^ (53 : Int) * 2 ^ (971 : Int) := by
          gcongr
          norm_num
      _ = 2 ^ (1024 : Int) := by
          rw [← zpow_add₀ (by norm_num), show (53 : Int) + 971 = 1024 by norm_num]

/-- Eight is less than ten. -/
theorem two_zpow_le {m n : Nat} (h : m ≤ 3 * n) : (2 : ℚ) ^ (m : Int) ≤ 10 ^ (n : Int) := by
  rw [zpow_natCast, zpow_natCast]
  calc (2 : ℚ) ^ m ≤ 2 ^ (3 * n) := pow_le_pow_right₀ (by norm_num) h
    _ = (2 ^ 3) ^ n := pow_mul _ _ _
    _ ≤ 10 ^ n := pow_le_pow_left₀ (by norm_num) (by norm_num) n

/-- All digits of a finite number read back. -/
theorem bits_exact {x : Binary64} (hfinite : x.magnitude < infinityBits) (hx : x.magnitude ≠ 0) :
    (exact x).bits = x.magnitude := by
  have hvalue := value_exact x
  obtain ⟨hlow, hhigh⟩ := value_bounds hfinite hx
  have hdigits : (exact x).digits ≠ 0 := by
    intro h
    have hpos : (0 : ℚ) < 2 ^ (-1074 : Int) := by positivity
    rw [← hvalue, h] at hlow
    simp only [Nat.cast_zero, zero_mul] at hlow
    exact absurd hlow (not_le.mpr hpos)
  obtain ⟨hleast, hgreatest⟩ := digits_bounds (Nat.pos_of_ne_zero hdigits)
  rw [hvalue] at hleast hgreatest
  have hsmall : ¬400 < ((exact x).size : Int) + (exact x).exponent := by
    intro h
    have hten : (10 : ℚ) ^ (400 : Int) ≤ 10 ^ ((exact x).size - 1 + (exact x).exponent) := by
      gcongr
      · norm_num
      · omega
    have htwo : (2 : ℚ) ^ (1024 : Int) ≤ 10 ^ (400 : Int) := two_zpow_le (m := 1024) (n := 400) (by omega)
    exact absurd (hhigh.trans_le (htwo.trans (hten.trans hleast))) (lt_irrefl _)
  have hlarge : ¬((exact x).size : Int) + (exact x).exponent < -400 := by
    intro h
    have hten : (10 : ℚ) ^ ((exact x).size + (exact x).exponent) ≤ 10 ^ (-401 : Int) := by
      gcongr
      · norm_num
      · omega
    have htwo : (10 : ℚ) ^ (-401 : Int) ≤ 2 ^ (-1074 : Int) := by
      rw [zpow_neg, zpow_neg]
      exact inv_anti₀ (by positivity) (two_zpow_le (m := 1074) (n := 401) (by omega))
    exact absurd (hgreatest.trans_le (hten.trans (htwo.trans hlow))) (lt_irrefl _)
  unfold bits
  simp only [beq_iff_eq, hdigits, hsmall, hlarge, if_false]
  refine ratioBits_of_value hfinite hx (scale_den_pos (by decide) Nat.one_pos _) ?_
  rw [scale_value (by decide), ← hvalue]
  simp

/-! ### The choice -/

theorem bits_neighbour? {half : Halfway} {x : Binary64} {e : Int} {d : Decimal}
    (h : neighbour? half x e = some d) : d.bits = x.magnitude := by
  unfold neighbour? at h
  simp only at h
  split at h
  · rename_i hbelow habove
    split at h <;> cases h
    · exact readsBack_iff.mp hbelow
    · exact readsBack_iff.mp habove
  · rename_i hbelow _
    cases h
    exact readsBack_iff.mp hbelow
  · rename_i _ habove
    cases h
    exact readsBack_iff.mp habove
  · cases h

/-- The fewest digits of a finite number read back. -/
theorem bits_shortest (half : Halfway) {x : Binary64} (hfinite : x.magnitude < infinityBits) :
    (shortest half x).bits = x.magnitude := by
  unfold shortest
  split
  · rename_i h
    rw [isZero, beq_iff_eq] at h
    rw [h]
    rfl
  · rename_i h
    rw [isZero, beq_iff_eq] at h
    simp only
    rw [bits_stripZeros]
    generalize integerPlaces x.ratio.1 x.ratio.2 = places
    cases hfound : (List.range 17).findSome? fun n => neighbour? half x (places - (n + 1 : Nat)) with
    | none => exact bits_exact hfinite h
    | some d =>
      obtain ⟨n, -, hn⟩ := List.exists_of_findSome?_eq_some hfound
      exact bits_neighbour? hn

end Decimal
end Catalogue.Number
