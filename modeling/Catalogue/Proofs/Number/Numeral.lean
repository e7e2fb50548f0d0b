import Catalogue.Proofs.Number.Shortest

/-! Numbers as numerals. The text of a finite number in an interchange format is that
of a numeral (`interchangeText_eq`), the numeral is one that may be written
(`wellFormed_interchange`), and the number nearest to it is the number itself
(`toBinary64_interchange`). An integer's text is a numeral of digits alone. -/
namespace Catalogue.Number

open Binary64

namespace Numeral

/-! ### Writing -/

/-- A minus sign, if one is written. -/
def signText (n : Numeral) : List Char := if n.negative then ['-'] else []

/-- The point and the digits after it. -/
def fractionText (n : Numeral) : List Char :=
  match n.fraction with
  | none => []
  | some ds => '.' :: ds

/-- The power of ten, its sign always written. -/
def exponentText (n : Numeral) : List Char :=
  match n.exponent with
  | none => []
  | some e => 'e' :: (if e < 0 then '-' else '+') :: decimalDigits e.natAbs

/-- The numeral without its sign. -/
def unsignedText (n : Numeral) : List Char := n.whole ++ (n.fractionText ++ n.exponentText)

/-- A run of one or more digits. -/
def Digits (ds : List Char) : Prop := ds ≠ [] ∧ ∀ c ∈ ds, '0' ≤ c ∧ c ≤ '9'

/-- A numeral with digits wherever they must be, and no zero before other digits. -/
structure WellFormed (n : Numeral) : Prop where
  whole : Digits n.whole
  first : n.whole.head? = some '0' → n.whole = ['0']
  fraction : ∀ ds ∈ n.fraction, Digits ds

theorem digits_decimalDigits (n : Nat) : Digits (decimalDigits n) :=
  ⟨decimalDigits_ne_nil n, fun _ h => isDigit_of_mem_decimalDigits h⟩

theorem digits_zero : Digits ['0'] := ⟨List.cons_ne_nil _ _, List.forall_mem_singleton.mpr (by decide)⟩

theorem Digits.append {a b : List Char} (ha : ∀ c ∈ a, '0' ≤ c ∧ c ≤ '9') (hb : Digits b) :
    Digits (a ++ b) := by
  refine ⟨List.append_ne_nil_of_right_ne_nil _ hb.1, fun c hc => ?_⟩
  rcases List.mem_append.mp hc with hc | hc
  · exact ha c hc
  · exact hb.2 c hc

theorem isDigit_of_mem_zeros {n : Nat} {c : Char} (h : c ∈ List.replicate n '0') : '0' ≤ c ∧ c ≤ '9' := by
  rw [List.eq_of_mem_replicate h]
  decide

/-! ### The value -/

/-- The digits and the power of ten that a numeral says. -/
def decimal (n : Numeral) : Decimal :=
  let fraction := n.fraction.getD []
  ⟨digitsValue (n.whole ++ fraction), n.exponent.getD 0 - fraction.length⟩

theorem toBinary64_eq (n : Numeral) : n.toBinary64 = ofMagnitude n.negative n.decimal.bits :=
  Decimal.ofDecimal_eq _ _ _

end Numeral

/-! ### Integers -/

theorem IntRange.holds_iff {r : IntRange} {n : Int} : r.holds n = true ↔ r.low ≤ n ∧ n ≤ r.high := by
  rw [holds, Bool.and_eq_true, decide_eq_true_eq, decide_eq_true_eq]

/-- An integer as a numeral. -/
def integerNumeral (n : Int) : Numeral := ⟨n < 0, decimalDigits n.natAbs, none, none⟩

theorem intText_eq (n : Int) :
    intText n = (integerNumeral n).signText ++ (integerNumeral n).unsignedText := by
  by_cases h : n < 0 <;>
    simp [intText, integerNumeral, Numeral.signText, Numeral.unsignedText, Numeral.fractionText,
      Numeral.exponentText, h]

/-- Digits of a number start with zero only if the number is zero. -/
theorem decimalDigits_of_head {n : Nat} (h : (decimalDigits n).head? = some '0') : decimalDigits n = ['0'] := by
  rcases Nat.eq_zero_or_pos n with rfl | hn
  · rfl
  · exact absurd h (head_decimalDigits hn)

theorem wellFormed_integerNumeral (n : Int) : (integerNumeral n).WellFormed where
  whole := Numeral.digits_decimalDigits _
  first := decimalDigits_of_head
  fraction := fun _ h => by simp [integerNumeral] at h

namespace Decimal

/-! ### Positional numerals -/

/-- A decimal as a numeral without an exponent. -/
def point (negative : Bool) (d : Decimal) : Numeral :=
  let ds := decimalDigits d.digits
  if 0 ≤ d.exponent then ⟨negative, ds ++ List.replicate d.exponent.toNat '0', some ['0'], none⟩
  else
    let places := (-d.exponent).toNat
    if places < ds.length then
      ⟨negative, ds.take (ds.length - places), some (ds.drop (ds.length - places)), none⟩
    else ⟨negative, ['0'], some (List.replicate (places - ds.length) '0' ++ ds), none⟩

theorem positional_eq (negative : Bool) (d : Decimal) :
    d.positional ['.', '0'] = (d.point negative).unsignedText := by
  simp only [positional, point]
  split
  · simp [Numeral.unsignedText, Numeral.fractionText, Numeral.exponentText]
  · split <;> simp [Numeral.unsignedText, Numeral.fractionText, Numeral.exponentText]

theorem bits_point (negative : Bool) (d : Decimal) : (d.point negative).decimal.bits = d.bits := by
  obtain ⟨digits, exponent⟩ := d
  simp only [point]
  split
  · rename_i h
    obtain ⟨k, rfl⟩ := Int.eq_ofNat_of_zero_le h
    have hdigits : digitsValue (decimalDigits digits ++ List.replicate k '0' ++ ['0']) =
        digits * 10 ^ (k + 1) := by
      rw [List.append_assoc, ← List.replicate_succ', digitsValue_append_zeros, digitsValue_decimalDigits]
    simp only [Numeral.decimal, Int.toNat_natCast, Option.getD_some, Option.getD_none, hdigits, bits_mul_pow,
      List.length_singleton]
    congr 2
    omega
  split
  · rename_i h hlt
    simp only [Numeral.decimal, Option.getD_some, Option.getD_none, List.take_append_drop,
      digitsValue_decimalDigits, List.length_drop]
    congr 2
    omega
  · rename_i h hle
    have hdigits : digitsValue (['0'] ++ (List.replicate ((-exponent).toNat - (decimalDigits digits).length) '0' ++
        decimalDigits digits)) = digits := by
      rw [← List.append_assoc, List.singleton_append, ← List.replicate_succ, digitsValue_zeros_append,
        digitsValue_decimalDigits]
    simp only [Numeral.decimal, Option.getD_some, Option.getD_none, hdigits, List.length_append,
      List.length_replicate]
    congr 2
    omega

/-- The first of some digits is the first of all. -/
theorem head?_take {α : Type} {xs : List α} {n : Nat} (h : 0 < n) : (xs.take n).head? = xs.head? := by
  obtain ⟨m, rfl⟩ := Nat.exists_eq_add_of_lt h
  cases xs <;> rfl

theorem pos_of_length {n : Nat} (h : 1 < (decimalDigits n).length) : 0 < n := by
  by_contra hzero
  obtain rfl : n = 0 := by omega
  exact absurd h (by decide)

/-- A decimal without digits to the left of others is written as it should be. -/
theorem wellFormed_point (negative : Bool) {d : Decimal} (h : d.digits = 0 → d.exponent = 0) :
    (d.point negative).WellFormed := by
  obtain ⟨digits, exponent⟩ := d
  have hds := Numeral.digits_decimalDigits digits
  simp only [point]
  split
  · refine ⟨⟨List.append_ne_nil_of_left_ne_nil hds.1 _, fun c hc => ?_⟩, fun hfirst => ?_, fun ds hd => ?_⟩
    · rcases List.mem_append.mp hc with hc | hc
      · exact hds.2 c hc
      · exact Numeral.isDigit_of_mem_zeros hc
    · rw [List.head?_append_of_ne_nil _ hds.1] at hfirst
      rcases Nat.eq_zero_or_pos digits with rfl | hpos
      · rw [show exponent = 0 from h rfl]
        rfl
      · exact absurd hfirst (head_decimalDigits hpos)
    · obtain rfl := Option.mem_some.mp hd
      exact Numeral.digits_zero
  split
  · rename_i hneg hlt
    have hplaces : 0 < (-exponent).toNat := by omega
    have hkept : 0 < (decimalDigits digits).length - (-exponent).toNat := by omega
    refine ⟨⟨?_, fun c hc => hds.2 c (List.mem_of_mem_take hc)⟩, fun hfirst => ?_, fun ds hd => ?_⟩
    · rw [← List.length_pos_iff, List.length_take]
      omega
    · rw [head?_take hkept] at hfirst
      exact absurd hfirst (head_decimalDigits (pos_of_length (by omega)))
    · obtain rfl := Option.mem_some.mp hd
      refine ⟨?_, fun c hc => hds.2 c (List.mem_of_mem_drop hc)⟩
      rw [← List.length_pos_iff, List.length_drop]
      omega
  · refine ⟨Numeral.digits_zero, fun _ => rfl, fun ds hd => ?_⟩
    obtain rfl := Option.mem_some.mp hd
    exact hds.append fun c hc => Numeral.isDigit_of_mem_zeros hc

/-! ### Numerals with an exponent -/

/-- A decimal as a numeral with one digit before the point. -/
def power (negative : Bool) (d : Decimal) : Numeral :=
  let ds := decimalDigits d.digits
  ⟨negative, ds.take 1, if ds.length ≤ 1 then none else some (ds.drop 1), some d.leading⟩

theorem scientific_eq (negative : Bool) (d : Decimal) : d.scientific = (d.power negative).unsignedText := by
  simp only [scientific, power, Numeral.unsignedText, Numeral.exponentText, Numeral.fractionText]
  by_cases hone : (decimalDigits d.digits).length ≤ 1 <;> by_cases hneg : d.leading < 0 <;> simp [hone, hneg]

theorem bits_power (negative : Bool) (d : Decimal) : (d.power negative).decimal.bits = d.bits := by
  have hpos := length_decimalDigits_pos d.digits
  have hsize : d.size = (decimalDigits d.digits).length := rfl
  obtain ⟨digits, exponent⟩ := d
  simp only [power, Numeral.decimal, Option.getD_some]
  split
  · rename_i hone
    rw [Option.getD_none, List.append_nil, List.take_of_length_le hone, digitsValue_decimalDigits]
    congr 2
    simp only [leading, List.length_nil, hsize]
    simp only at hpos hone
    omega
  · rename_i hone
    rw [Option.getD_some, List.take_append_drop, digitsValue_decimalDigits]
    congr 2
    simp only [leading, List.length_drop, hsize]
    simp only at hpos hone
    omega

theorem wellFormed_power (negative : Bool) (d : Decimal) : (d.power negative).WellFormed := by
  have hds := Numeral.digits_decimalDigits d.digits
  refine ⟨⟨?_, fun c hc => hds.2 c (List.mem_of_mem_take hc)⟩, fun hfirst => ?_, fun ds hd => ?_⟩
  · rw [power, ← List.length_pos_iff, List.length_take]
    exact lt_min Nat.one_pos (length_decimalDigits_pos _)
  · simp only [power] at hfirst ⊢
    rw [head?_take Nat.one_pos] at hfirst
    rw [decimalDigits_of_head hfirst]
    rfl
  · simp only [power, Option.mem_def] at hd
    split at hd
    · cases hd
    · rename_i hone
      cases hd
      refine ⟨?_, fun c hc => hds.2 c (List.mem_of_mem_drop hc)⟩
      rw [← List.length_pos_iff, List.length_drop]
      omega

end Decimal

namespace Binary64

/-! ### Finite numbers -/

/-- A finite number as a numeral. -/
def interchange (x : Binary64) : Numeral :=
  let d := Decimal.shortest .toEven x
  if -5 ≤ d.leading && d.leading < 16 then d.point x.negative else d.power x.negative

theorem negative_interchange (x : Binary64) : x.interchange.negative = x.negative := by
  simp only [interchange, Decimal.point, Decimal.power]
  repeat' split
  all_goals rfl

theorem interchangeText_eq (x : Binary64) :
    x.interchangeText = x.interchange.signText ++ x.interchange.unsignedText := by
  have hsign : x.interchange.signText = x.signText := by
    rw [Numeral.signText, signText, negative_interchange]
  rw [hsign]
  simp only [interchangeText, interchange]
  split
  · rw [Decimal.positional_eq x.negative]
  · rw [Decimal.scientific_eq x.negative]

/-- A number is the nearest to its numeral. -/
theorem toBinary64_interchange {x : Binary64} (h : x.isFinite) : x.interchange.toBinary64 = x := by
  have hbits : x.interchange.decimal.bits = x.magnitude := by
    rw [← Decimal.bits_shortest .toEven (of_decide_eq_true h)]
    simp only [interchange]
    split
    · exact Decimal.bits_point _ _
    · exact Decimal.bits_power _ _
  rw [Numeral.toBinary64_eq, hbits, negative_interchange, Decimal.ofMagnitude_self]

theorem shortest_digits {x : Binary64} (h : x.isFinite) (half : Decimal.Halfway)
    (hdigits : (Decimal.shortest half x).digits = 0) : (Decimal.shortest half x).exponent = 0 := by
  have hbits := Decimal.bits_shortest half (of_decide_eq_true h)
  have hzero : x.isZero := by
    rw [isZero, beq_iff_eq, ← hbits, Decimal.bits]
    simp [hdigits]
  rw [Decimal.shortest, if_pos hzero]

theorem wellFormed_interchange {x : Binary64} (h : x.isFinite) : x.interchange.WellFormed := by
  simp only [interchange]
  split
  · exact Decimal.wellFormed_point _ (shortest_digits h _)
  · exact Decimal.wellFormed_power _ _

/-- A number's numeral has a point or an exponent. -/
theorem interchange_not_integer (x : Binary64) :
    x.interchange.fraction ≠ none ∨ x.interchange.exponent ≠ none := by
  simp only [interchange, Decimal.point, Decimal.power]
  repeat' split
  all_goals simp

end Binary64
end Catalogue.Number
