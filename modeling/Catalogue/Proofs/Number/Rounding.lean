import Catalogue.Number.Binary64
import Mathlib.Algebra.Order.Field.Power
import Mathlib.Algebra.Order.Ring.Nat
import Mathlib.Data.Int.Log
import Mathlib.Data.Rat.Floor
import Mathlib.Tactic.FieldSimp
import Mathlib.Tactic.Linarith
import Mathlib.Tactic.NormNum
import Mathlib.Tactic.Positivity
import Mathlib.Tactic.Ring

/-! Rounding to floating-point numbers. What a quotient is rounded to depends on its
value alone (`ratioBits_congr`), and a finite number is rounded to itself
(`ratioBits_of_value`). -/
namespace Catalogue.Number.Binary64

/-! ### Quotients -/

/-- The value of a scaled quotient. -/
theorem scale_value {b num den : Nat} (hb : 0 < b) (e : Int) :
    ((scale b num den e).1 : ℚ) / (scale b num den e).2 = num / den * (b : ℚ) ^ e := by
  unfold scale
  have hb' : (b : ℚ) ≠ 0 := by positivity
  split
  · rename_i he
    obtain ⟨k, rfl⟩ := Int.eq_ofNat_of_zero_le he
    simp only [Int.toNat_natCast, Nat.pow_eq, Nat.cast_mul, Nat.cast_pow, zpow_natCast]
    ring
  · rename_i he
    obtain ⟨k, hk⟩ := Int.eq_ofNat_of_zero_le (show 0 ≤ -e by omega)
    obtain rfl : e = -(k : Int) := by omega
    simp only [neg_neg, Int.toNat_natCast, Nat.pow_eq, Nat.cast_mul, Nat.cast_pow, zpow_neg, zpow_natCast]
    rw [div_mul_eq_div_div, div_eq_mul_inv]

theorem scale_den_pos {b num den : Nat} (hb : 0 < b) (hden : 0 < den) (e : Int) :
    0 < (scale b num den e).2 := by
  unfold scale
  split
  · exact hden
  · exact Nat.mul_pos hden (Nat.pow_pos hb)

/-- Equal quotients, multiplied out. -/
theorem mul_eq_mul_of_div {n d n' d' : Nat} (hd : 0 < d) (hd' : 0 < d')
    (h : (n : ℚ) / d = n' / d') : n * d' = n' * d := by
  have hd₀ : (d : ℚ) ≠ 0 := by positivity
  have hd₀' : (d' : ℚ) ≠ 0 := by positivity
  rw [div_eq_div_iff hd₀ hd₀'] at h
  exact_mod_cast h

theorem roundQuotient_mul {k : Nat} (hk : 0 < k) (n d : Nat) :
    roundQuotient (k * n) (k * d) = roundQuotient n d := by
  have hlt : ∀ a b : Nat, 2 * (k * a) < k * b ↔ 2 * a < b := fun a b => by
    rw [Nat.mul_left_comm]
    exact Nat.mul_lt_mul_left hk
  have hgt : ∀ a b : Nat, k * b < 2 * (k * a) ↔ b < 2 * a := fun a b => by
    rw [Nat.mul_left_comm 2 k a]
    exact Nat.mul_lt_mul_left hk
  simp only [roundQuotient, Nat.mul_div_mul_left _ _ hk, Nat.mul_mod_mul_left, hlt, hgt]

/-- Equal quotients are rounded to the same integer. -/
theorem roundQuotient_congr {n d n' d' : Nat} (hd : 0 < d) (hd' : 0 < d')
    (h : (n : ℚ) / d = n' / d') : roundQuotient n d = roundQuotient n' d' := by
  rw [← roundQuotient_mul hd' n d, ← roundQuotient_mul hd n' d', Nat.mul_comm d' n,
    mul_eq_mul_of_div hd hd' h, Nat.mul_comm n' d, Nat.mul_comm d' d]

theorem roundQuotient_of_value {n d m : Nat} (hd : 0 < d) (h : (n : ℚ) / d = m) :
    roundQuotient n d = m := by
  have hone : (n : ℚ) / d = (m : ℕ) / (1 : ℕ) := by rw [h]; simp
  rw [roundQuotient_congr hd Nat.one_pos hone]
  simp [roundQuotient, Nat.mod_one]

/-! ### Logarithms -/

/-- A quotient lies between the powers of two that its parts give. -/
theorem log2_bounds {num den : Nat} (hnum : 0 < num) (hden : 0 < den) :
    (2 : ℚ) ^ ((Nat.log2 num : Int) - Nat.log2 den - 1) ≤ num / den ∧
      (num : ℚ) / den < 2 ^ ((Nat.log2 num : Int) - Nat.log2 den + 1) := by
  have hden' : (0 : ℚ) < den := by exact_mod_cast hden
  have hlow : (2 : ℚ) ^ (Nat.log2 num : Int) ≤ num := by
    rw [zpow_natCast]
    exact_mod_cast Nat.log2_self_le hnum.ne'
  have hhigh : (num : ℚ) < 2 ^ ((Nat.log2 num : Int) + 1) := by
    rw [show (Nat.log2 num : Int) + 1 = (Nat.log2 num + 1 : Nat) by push_cast; rfl, zpow_natCast]
    exact_mod_cast Nat.lt_log2_self
  have hlow' : (2 : ℚ) ^ (Nat.log2 den : Int) ≤ den := by
    rw [zpow_natCast]
    exact_mod_cast Nat.log2_self_le hden.ne'
  have hhigh' : (den : ℚ) < 2 ^ ((Nat.log2 den : Int) + 1) := by
    rw [show (Nat.log2 den : Int) + 1 = (Nat.log2 den + 1 : Nat) by push_cast; rfl, zpow_natCast]
    exact_mod_cast Nat.lt_log2_self
  constructor
  · rw [le_div_iff₀ hden']
    calc (2 : ℚ) ^ ((Nat.log2 num : Int) - Nat.log2 den - 1) * den
        ≤ 2 ^ ((Nat.log2 num : Int) - Nat.log2 den - 1) * 2 ^ ((Nat.log2 den : Int) + 1) := by gcongr
      _ = 2 ^ (Nat.log2 num : Int) := by
          rw [← zpow_add₀ (by norm_num)]
          congr 1
          omega
      _ ≤ num := hlow
  · rw [div_lt_iff₀ hden']
    calc (num : ℚ) < 2 ^ ((Nat.log2 num : Int) + 1) := hhigh
      _ = 2 ^ ((Nat.log2 num : Int) - Nat.log2 den + 1) * 2 ^ (Nat.log2 den : Int) := by
          rw [← zpow_add₀ (by norm_num)]
          congr 1
          omega
      _ ≤ 2 ^ ((Nat.log2 num : Int) - Nat.log2 den + 1) * den := by gcongr

/-- A number between a power of two and the next has its exponent for a logarithm. -/
theorem log_eq {r : ℚ} (hr : 0 < r) {e : Int} (hlow : (2 : ℚ) ^ e ≤ r) (hhigh : r < 2 ^ (e + 1)) :
    Int.log 2 r = e := by
  have h₁ := (Int.zpow_le_iff_le_log (by decide) hr).mp (show ((2 : Nat) : ℚ) ^ e ≤ r by exact_mod_cast hlow)
  have h₂ := (Int.lt_zpow_iff_log_lt (by decide) hr).mp
    (show r < ((2 : Nat) : ℚ) ^ (e + 1) by exact_mod_cast hhigh)
  omega

/-- The estimate of a logarithm, corrected by one comparison, is the logarithm. -/
theorem floorLog2_eq {num den : Nat} (hnum : 0 < num) (hden : 0 < den) :
    floorLog2 num den = Int.log 2 ((num : ℚ) / den) := by
  have hr : (0 : ℚ) < num / den := div_pos (by exact_mod_cast hnum) (by exact_mod_cast hden)
  obtain ⟨hlow, hhigh⟩ := log2_bounds hnum hden
  unfold floorLog2
  generalize (Nat.log2 num : Int) - Nat.log2 den = e at hlow hhigh ⊢
  have hscaled : ((scale 2 num den (-e)).1 : ℚ) / (scale 2 num den (-e)).2 = num / den * ((2 : Nat) : ℚ) ^ (-e) :=
    scale_value (by decide) (-e)
  have hpos : (0 : ℚ) < (scale 2 num den (-e)).2 := by exact_mod_cast scale_den_pos (by decide) hden _
  have hcompare : (scale 2 num den (-e)).2 ≤ (scale 2 num den (-e)).1 ↔ (2 : ℚ) ^ e ≤ num / den := by
    rw [← Nat.cast_le (α := ℚ), ← one_le_div hpos, hscaled, Nat.cast_ofNat, zpow_neg,
      ← div_eq_mul_inv, one_le_div (by positivity)]
  show (if (scale 2 num den (-e)).2 ≤ (scale 2 num den (-e)).1 then e else e - 1) = _
  split
  · rename_i h
    exact (log_eq hr (hcompare.mp h) hhigh).symm
  · rename_i h
    rw [hcompare, not_le] at h
    exact (log_eq hr hlow (by rwa [sub_add_cancel])).symm

/-! ### Rounding -/

/-- Equal quotients are rounded to the same number. -/
theorem ratioBits_congr {num den num' den' : Nat} (hden : 0 < den) (hden' : 0 < den')
    (h : (num : ℚ) / den = num' / den') : ratioBits num den = ratioBits num' den' := by
  have hcross := mul_eq_mul_of_div hden hden' h
  unfold ratioBits
  by_cases hnum : num = 0
  · have hnum' : num' = 0 := by
      rw [hnum, Nat.zero_mul] at hcross
      exact (Nat.mul_eq_zero.mp hcross.symm).resolve_right hden.ne'
    simp [hnum, hnum']
  · have hnum' : num' ≠ 0 := by
      rintro rfl
      rw [Nat.zero_mul] at hcross
      exact hnum ((Nat.mul_eq_zero.mp hcross).resolve_right hden'.ne')
    have hlog : floorLog2 num den = floorLog2 num' den' := by
      rw [floorLog2_eq (Nat.pos_of_ne_zero hnum) hden, floorLog2_eq (Nat.pos_of_ne_zero hnum') hden', h]
    simp only [beq_iff_eq, hnum, hnum', if_false, hlog]
    congr 2
    refine roundQuotient_congr (scale_den_pos (by decide) hden _) (scale_den_pos (by decide) hden' _) ?_
    rw [scale_value (by decide), scale_value (by decide), h]

/-- The bits of a finite number, by the mantissa and the power of two that it is made of. -/
theorem bits_of_parts {x : Binary64} (hx : x.magnitude ≠ 0) :
    (x.exponent = -1074 ∧ x.mantissa < hiddenBit ∨
        -1074 ≤ x.exponent ∧ hiddenBit ≤ x.mantissa ∧ x.mantissa < 2 * hiddenBit) ∧
      0 < x.mantissa ∧ (x.exponent + 1074).toNat * hiddenBit + x.mantissa = x.magnitude := by
  have hhidden : 0 < hiddenBit := by decide
  unfold exponent mantissa
  by_cases h : x.magnitude < hiddenBit
  · rw [if_pos h, if_pos h]
    exact ⟨.inl ⟨rfl, h⟩, Nat.pos_of_ne_zero hx, by simp⟩
  · rw [if_neg h, if_neg h]
    have hmod := Nat.mod_lt x.magnitude hhidden
    have hdiv := Nat.div_add_mod x.magnitude hiddenBit
    have hone : 1 ≤ x.magnitude / hiddenBit := (Nat.one_le_div_iff hhidden).mpr (by omega)
    refine ⟨.inr ⟨by omega, by omega, by omega⟩, by omega, ?_⟩
    have hshift : ((x.magnitude / hiddenBit : Nat) - 1075 + 1074 : Int).toNat =
        x.magnitude / hiddenBit - 1 := by omega
    rw [hshift, Nat.sub_mul, Nat.one_mul, Nat.mul_comm]
    have hle : hiddenBit ≤ hiddenBit * (x.magnitude / hiddenBit) := Nat.le_mul_of_pos_right _ (by omega)
    omega

/-- The quotient of a finite number is rounded to the number. -/
theorem ratioBits_of_value {x : Binary64} (hfinite : x.magnitude < infinityBits) (hx : x.magnitude ≠ 0)
    {num den : Nat} (hden : 0 < den) (h : (num : ℚ) / den = x.mantissa * 2 ^ x.exponent) :
    ratioBits num den = x.magnitude := by
  obtain ⟨hparts, hpos, hbits⟩ := bits_of_parts hx
  have hmantissa : (0 : ℚ) < x.mantissa := by exact_mod_cast hpos
  have hvalue : (0 : ℚ) < num / den := by rw [h]; positivity
  have hnum : num ≠ 0 := by
    rintro rfl
    simp at hvalue
  have hlog : max (floorLog2 num den - 52) (-1074) = x.exponent := by
    rw [floorLog2_eq (Nat.pos_of_ne_zero hnum) hden]
    rcases hparts with ⟨he, hsmall⟩ | ⟨he, hlow, hhigh⟩
    · have hlt : (num : ℚ) / den < 2 ^ (-1022 : Int) := by
        rw [h, he]
        calc (x.mantissa : ℚ) * 2 ^ (-1074 : Int) < 2 ^ (52 : Int) * 2 ^ (-1074 : Int) := by
              gcongr
              exact_mod_cast (show x.mantissa < 2 ^ 52 from hsmall)
          _ = 2 ^ (-1022 : Int) := by rw [← zpow_add₀ (by norm_num)]; norm_num
      have := (Int.lt_zpow_iff_log_lt (by decide) hvalue).mp
        (show (num : ℚ) / den < ((2 : Nat) : ℚ) ^ (-1022 : Int) by exact_mod_cast hlt)
      omega
    · have hlog : Int.log 2 ((num : ℚ) / den) = 52 + x.exponent := by
        refine log_eq hvalue ?_ ?_
        · rw [h, zpow_add₀ (by norm_num)]
          gcongr
          exact_mod_cast (show 2 ^ 52 ≤ x.mantissa from hlow)
        · rw [h, show 52 + x.exponent + 1 = 53 + x.exponent by omega, zpow_add₀ (by norm_num)]
          gcongr
          exact_mod_cast (show x.mantissa < 2 ^ 53 from hhigh)
      omega
  have hround : roundQuotient (scale 2 num den (-x.exponent)).1 (scale 2 num den (-x.exponent)).2 =
      x.mantissa := by
    refine roundQuotient_of_value (scale_den_pos (by decide) hden _) ?_
    rw [scale_value (by decide), h, Nat.cast_ofNat, mul_assoc, ← zpow_add₀ (by norm_num), add_neg_cancel,
      zpow_zero, mul_one]
  unfold ratioBits
  simp only [beq_iff_eq, hnum, if_false, hlog]
  show min ((x.exponent + 1074).toNat * hiddenBit + roundQuotient _ _) infinityBits = _
  rw [hround, hbits]
  omega

end Catalogue.Number.Binary64
