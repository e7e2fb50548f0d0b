import Catalogue.Json.Document
import Catalogue.Json.Printer
import Catalogue.Proofs.Number.Numeral

/-! Scanning. What is left after a token is never longer than what followed its first
character, so the tokens of a text are its first token and those of the rest
(`tokens_cons`). A numeral that no digit, point or exponent follows is one token
(`tokens_numeral`), and so is a string as it is written (`tokens_stringText`). -/
namespace Catalogue.Json

open Number (Binary64 Numeral intText integerNumeral)

/-! ### What is left -/

theorem length_dropWhile_le (s : List Char) : (s.dropWhile isDigit).length ≤ s.length :=
  (List.dropWhile_sublist _).length_le

theorem length_stringUnits (s : List Char) : (stringUnits s).2.2.length ≤ s.length := by
  fun_induction stringUnits s <;> simp_all <;> omega

/-- What follows digits that are wanted. -/
theorem length_of_digits {α : Type} {u r : List Char} {f : Fault} {a b : α}
    (h : (if (u.takeWhile isDigit).isEmpty then Except.error f else .ok (a, u.dropWhile isDigit)) =
      .ok (b, r)) : r.length ≤ u.length := by
  split at h
  · cases h
  · cases h
    exact length_dropWhile_le u

theorem length_scanExponent {s r : List Char} {e : Option Int} (h : scanExponent s = .ok (e, r)) :
    r.length ≤ s.length := by
  cases s with
  | nil =>
    cases h
    exact Nat.le_refl _
  | cons c rest =>
    simp only [scanExponent, takeDigits] at h
    split at h
    · have hle : r.length ≤ rest.length := by
        split at h
        · exact (length_of_digits h).trans (Nat.le_succ _)
        · exact (length_of_digits h).trans (Nat.le_succ _)
        · exact length_of_digits h
      exact hle.trans (Nat.le_succ _)
    · cases h
      exact Nat.le_refl _

theorem length_scanFraction {s r : List Char} {f : Option (List Char)} (h : scanFraction s = .ok (f, r)) :
    r.length ≤ s.length := by
  simp only [scanFraction, takeDigits] at h
  split at h
  · exact (length_of_digits h).trans (Nat.le_succ _)
  · cases h
    exact Nat.le_refl _

theorem length_scanNumeral {negative : Bool} {s r : List Char} {n : Numeral}
    (h : scanNumeral negative s = .ok (n, r)) : r.length ≤ (s.dropWhile isDigit).length := by
  unfold scanNumeral at h
  simp only [takeDigits] at h
  split at h
  · cases h
  · cases h
  · cases hf : scanFraction (s.dropWhile isDigit) with
    | error e => simp [hf, bind, Except.bind] at h
    | ok p =>
      obtain ⟨f, r₁⟩ := p
      cases he : scanExponent r₁ with
      | error e => simp [hf, he, bind, Except.bind] at h
      | ok q =>
        obtain ⟨e, r₂⟩ := q
        simp only [hf, he, bind, Except.bind, pure, Except.pure] at h
        cases h
        exact (length_scanExponent he).trans (length_scanFraction hf)

theorem length_numberToken (negative : Bool) (s : List Char) :
    (numberToken negative s).2.length ≤ (s.dropWhile isDigit).length := by
  unfold numberToken
  split
  · rename_i h
    exact length_scanNumeral h
  · exact Nat.zero_le _

theorem length_literalToken (t : Token) (es s : List Char) : (literalToken t es s).2.length ≤ s.length := by
  induction es generalizing s with
  | nil => exact Nat.le_refl _
  | cons e es ih =>
    cases s with
    | nil => exact Nat.le_refl _
    | cons c rest =>
      rw [literalToken]
      split
      · exact (ih rest).trans (Nat.le_succ _)
      · exact Nat.zero_le _

theorem length_stringToken (s : List Char) : (stringToken s).2.length ≤ s.length := by
  simp only [stringToken]
  split
  · exact length_stringUnits s
  · exact Nat.zero_le _

/-- A token that is no number. -/
def Token.Plain : Token → Prop
  | .number _ => False
  | _ => True

/-- What holds of a token that each kind of first character begins holds of every token. -/
theorem scan_induction {P : Token × List Char → Prop} {c : Char} {rest : List Char}
    (plain : ∀ t : Token, t.Plain → P (t, rest))
    (string : P (stringToken rest))
    (negative : P (numberToken true rest))
    (digit : isDigit c → P (numberToken false (c :: rest)))
    (literal : ∀ (t : Token) (es : List Char), t.Plain → '\x7b' ∉ es → P (literalToken t es rest))
    (stray : P (.stray, [])) : P (scan c rest) := by
  unfold scan
  iterate 6 refine iteInduction (fun _ => plain _ trivial) fun _ => ?_
  refine iteInduction (fun _ => string) fun _ => ?_
  refine iteInduction (fun _ => negative) fun _ => ?_
  refine iteInduction digit fun _ => ?_
  iterate 3 refine iteInduction (fun _ => literal _ _ trivial (by decide)) fun _ => ?_
  exact stray

/-- A token takes at least its first character. -/
theorem length_scan (c : Char) (rest : List Char) : (scan c rest).2.length ≤ rest.length := by
  refine scan_induction (P := fun p => p.2.length ≤ rest.length) (fun _ _ => Nat.le_refl _)
    (length_stringToken _) ((length_numberToken _ _).trans (length_dropWhile_le _)) (fun hdigit => ?_)
    (fun t es _ _ => length_literalToken t es rest) (Nat.zero_le _)
  refine (length_numberToken _ _).trans ?_
  rw [List.dropWhile_cons_of_pos hdigit]
  exact length_dropWhile_le _

/-! ### Tokens one by one -/

theorem scanAll_congr {m n : Nat} {s : List Char} (hm : s.length ≤ m) (hn : s.length ≤ n) :
    scanAll m s = scanAll n s := by
  induction m generalizing n s with
  | zero =>
    obtain rfl := List.eq_nil_of_length_eq_zero (Nat.le_zero.mp hm)
    cases n <;> rfl
  | succ m ih =>
    cases s with
    | nil => cases n <;> rfl
    | cons c rest =>
      obtain ⟨n, rfl⟩ := Nat.exists_eq_succ_of_ne_zero (show n ≠ 0 by simp only [List.length_cons] at hn; omega)
      have hm' : rest.length ≤ m := Nat.le_of_succ_le_succ hm
      have hn' : rest.length ≤ n := Nat.le_of_succ_le_succ hn
      have hleft := length_scan c rest
      simp only [scanAll]
      split
      · exact ih hm' hn'
      · rw [ih (hleft.trans hm') (hleft.trans hn')]

@[simp] theorem tokens_nil : tokens [] = [] := rfl

/-- The first token, and those of what is left. -/
theorem tokens_cons {c : Char} {rest r : List Char} {t : Token} (hblank : isBlank c = false)
    (h : scan c rest = (t, r)) : tokens (c :: rest) = t :: tokens r := by
  have hleft : r.length ≤ rest.length := by
    have := length_scan c rest
    rwa [h] at this
  simp only [tokens, List.length_cons, scanAll, hblank, Bool.false_eq_true, if_false, h]
  rw [scanAll_congr hleft (Nat.le_refl _)]

/-! ### Numerals -/

/-- A text that starts with nothing that a numeral could go on with. -/
def Delimited (rest : List Char) : Prop :=
  ∀ c ∈ rest.head?, isDigit c = false ∧ c ≠ '.' ∧ c ≠ 'e' ∧ c ≠ 'E'

theorem delimited_nil : Delimited [] := fun _ h => by cases h

theorem isDigit_iff {c : Char} : isDigit c = true ↔ '0' ≤ c ∧ c ≤ '9' := by
  rw [isDigit, Bool.and_eq_true, decide_eq_true_eq, decide_eq_true_eq]

theorem takeDigits_append {ds rest : List Char} (hds : ∀ c ∈ ds, '0' ≤ c ∧ c ≤ '9')
    (hrest : ∀ c ∈ rest.head?, isDigit c = false) : takeDigits (ds ++ rest) = (ds, rest) := by
  have hall : ∀ c ∈ ds, isDigit c = true := fun c hc => isDigit_iff.mpr (hds c hc)
  have hstop : rest.takeWhile isDigit = [] ∧ rest.dropWhile isDigit = rest := by
    cases rest with
    | nil => exact ⟨rfl, rfl⟩
    | cons c rest =>
      have hc := hrest c rfl
      exact ⟨List.takeWhile_cons_of_neg (by simp [hc]), List.dropWhile_cons_of_neg (by simp [hc])⟩
  rw [takeDigits, List.takeWhile_append_of_pos hall, List.dropWhile_append_of_pos hall, hstop.1, hstop.2,
    List.append_nil]

theorem scanExponent_exponentText (n : Numeral) {rest : List Char} (h : Delimited rest) :
    scanExponent (n.exponentText ++ rest) = .ok (n.exponent, rest) := by
  obtain ⟨negative, whole, fraction, exponent⟩ := n
  cases exponent with
  | none =>
    cases rest with
    | nil => rfl
    | cons c rest =>
      obtain ⟨-, -, he, hE⟩ := h c rfl
      simp [Numeral.exponentText, scanExponent, he, hE]
  | some e =>
    have hscan : takeDigits (Number.decimalDigits e.natAbs ++ rest) = (Number.decimalDigits e.natAbs, rest) :=
      takeDigits_append (Numeral.digits_decimalDigits e.natAbs).2 fun c hc => (h c hc).1
    have hne : (Number.decimalDigits e.natAbs).isEmpty = false :=
      List.isEmpty_eq_false_iff.mpr (Number.decimalDigits_ne_nil _)
    by_cases hneg : e < 0
    · simp [Numeral.exponentText, scanExponent, hneg, hscan, hne, Number.digitsValue_decimalDigits,
        abs_of_neg hneg]
    · simp [Numeral.exponentText, scanExponent, hneg, hscan, hne, Number.digitsValue_decimalDigits,
        abs_of_nonneg (not_lt.mp hneg)]

/-- Neither a digit nor a point begins the exponent or what follows it. -/
theorem head_exponentText (n : Numeral) {rest : List Char} (h : Delimited rest) :
    ∀ c ∈ (n.exponentText ++ rest).head?, isDigit c = false ∧ c ≠ '.' := by
  intro c hc
  obtain ⟨negative, whole, fraction, exponent⟩ := n
  cases exponent with
  | none =>
    obtain ⟨hdigit, hpoint, -⟩ := h c hc
    exact ⟨hdigit, hpoint⟩
  | some e =>
    obtain rfl : 'e' = c := Option.some.inj hc
    decide

theorem scanFraction_fractionText {n : Numeral} (hn : n.WellFormed) {rest : List Char} (h : Delimited rest) :
    scanFraction (n.fractionText ++ (n.exponentText ++ rest)) = .ok (n.fraction, n.exponentText ++ rest) := by
  have hhead := head_exponentText n h
  obtain ⟨negative, whole, fraction, exponent⟩ := n
  cases fraction with
  | none =>
    generalize Numeral.exponentText _ ++ rest = s at hhead
    cases s with
    | nil => rfl
    | cons c s =>
      have hc := (hhead c rfl).2
      simp [Numeral.fractionText, scanFraction, hc]
  | some ds =>
    obtain ⟨hne, hds⟩ := hn.fraction ds rfl
    have hscan := takeDigits_append hds fun c hc => (hhead c hc).1
    simp only [Numeral.fractionText, List.cons_append, scanFraction, hscan,
      List.isEmpty_eq_false_iff.mpr hne]
    rfl

theorem scanNumeral_unsignedText {n : Numeral} (hn : n.WellFormed) {rest : List Char} (h : Delimited rest) :
    scanNumeral n.negative (n.unsignedText ++ rest) = .ok (n, rest) := by
  have hfraction := scanFraction_fractionText hn h
  have hexponent := scanExponent_exponentText n h
  have hhead : ∀ c ∈ (n.fractionText ++ (n.exponentText ++ rest)).head?, isDigit c = false := by
    intro c hc
    cases hf : n.fraction with
    | none =>
      rw [Numeral.fractionText, hf] at hc
      exact (head_exponentText n h c hc).1
    | some ds =>
      rw [Numeral.fractionText, hf] at hc
      obtain rfl : '.' = c := Option.some.inj hc
      rfl
  have hwhole := takeDigits_append hn.whole.2 hhead
  rw [Numeral.unsignedText, List.append_assoc, List.append_assoc]
  simp only [scanNumeral, hwhole]
  split
  · rename_i hnil
    exact absurd hnil hn.whole.1
  · rename_i hzero
    have := hn.first (by rw [hzero]; rfl)
    rw [hzero] at this
    cases this
  · simp only [hfraction, hexponent, bind, Except.bind, pure, Except.pure]

theorem scan_digit {c : Char} (h : isDigit c) (rest : List Char) :
    scan c rest = numberToken false (c :: rest) := by
  have hne (x : Char) (hx : isDigit x = false) : c ≠ x := by
    rintro rfl
    rw [h] at hx
    cases hx
  rw [scan, if_neg (hne '[' rfl), if_neg (hne ']' rfl), if_neg (hne '\x7b' rfl), if_neg (hne '\x7d' rfl),
    if_neg (hne ',' rfl), if_neg (hne ':' rfl), if_neg (hne '"' rfl), if_neg (hne '-' rfl), if_pos h]

theorem isBlank_of_isDigit {c : Char} (h : isDigit c) : isBlank c = false := by
  have hne (x : Char) (hx : isDigit x = false) : (c == x) = false := by
    rw [beq_eq_false_iff_ne]
    rintro rfl
    rw [h] at hx
    cases hx
  rw [isBlank, hne ' ' rfl, hne '\n' rfl, hne '\t' rfl, hne '\r' rfl]
  rfl

/-- A numeral is one token. -/
theorem tokens_numeral {n : Numeral} (hn : n.WellFormed) {rest : List Char} (h : Delimited rest) :
    tokens (n.signText ++ (n.unsignedText ++ rest)) = .number (numberValue n) :: tokens rest := by
  have hscan := scanNumeral_unsignedText hn h
  have htoken : numberToken n.negative (n.unsignedText ++ rest) = (.number (numberValue n), rest) := by
    rw [numberToken, hscan]
  by_cases hneg : n.negative
  · rw [Numeral.signText, if_pos hneg]
    rw [hneg] at htoken
    exact tokens_cons rfl htoken
  · rw [Numeral.signText, if_neg hneg, List.nil_append]
    rw [Bool.not_eq_true] at hneg
    rw [hneg] at htoken
    obtain ⟨hne, hdigits⟩ := hn.whole
    cases hw : n.whole with
    | nil => exact absurd hw hne
    | cons c ds =>
      have hc : isDigit c := isDigit_iff.mpr (hdigits c (by rw [hw]; exact List.mem_cons_self ..))
      have htext : n.unsignedText ++ rest = c :: (ds ++ (n.fractionText ++ (n.exponentText ++ rest))) := by
        rw [Numeral.unsignedText, hw]
        simp
      rw [htext] at htoken ⊢
      exact tokens_cons (isBlank_of_isDigit hc) (by rw [scan_digit hc, htoken])

/-- An integer of 64 bits, with or without a sign. -/
def Word (n : Int) : Prop := Number.int64.low ≤ n ∧ n ≤ Number.nat64.high

theorem numberValue_integerNumeral {n : Int} (h : Word n) : numberValue (integerNumeral n) = .ok (.int n) := by
  obtain ⟨hlow, hhigh⟩ := h
  simp only [Number.int64, Number.nat64] at hlow hhigh
  simp only [numberValue, integerNumeral, Number.digitsValue_decimalDigits]
  by_cases hneg : n < 0
  · have hvalue : -(n.natAbs : Int) = n := by omega
    have hzero : (n.natAbs == 0) = false := by
      rw [beq_eq_false_iff_ne]
      omega
    have hholds : Number.int64.holds n = true := Number.IntRange.holds_iff.mpr ⟨hlow, by simp only [Number.int64]; omega⟩
    simp only [hneg, hvalue, hzero, hholds, decide_true, if_true, Bool.not_true, Bool.or_self,
      Bool.false_eq_true, if_false]
  · have hvalue : (n.natAbs : Int) = n := by omega
    have hholds : Number.nat64.holds n = true := Number.IntRange.holds_iff.mpr ⟨not_lt.mp hneg, hhigh⟩
    simp only [hneg, hvalue, hholds, decide_false, if_true, Bool.false_eq_true, if_false]

theorem tokens_intText {n : Int} (hn : Word n) {rest : List Char} (h : Delimited rest) :
    tokens (intText n ++ rest) = .number (.ok (.int n)) :: tokens rest := by
  rw [Number.intText_eq, List.append_assoc, tokens_numeral (Number.wellFormed_integerNumeral n) h,
    numberValue_integerNumeral hn]

theorem numberValue_interchange {x : Binary64} (h : x.isFinite) :
    numberValue x.interchange = .ok (.float x) := by
  have hvalue := Binary64.toBinary64_interchange h
  unfold numberValue
  split
  · rename_i hfraction hexponent
    exact absurd hexponent ((Binary64.interchange_not_integer x).resolve_left (absurd hfraction))
  · simp only [hvalue, h, if_true]

theorem tokens_interchangeText {x : Binary64} (hx : x.isFinite) {rest : List Char} (h : Delimited rest) :
    tokens (x.interchangeText ++ rest) = .number (.ok (.float x)) :: tokens rest := by
  rw [Binary64.interchangeText_eq, List.append_assoc, tokens_numeral (Binary64.wellFormed_interchange hx) h,
    numberValue_interchange hx]

/-! ### Strings -/

/-- The unit that a character is written as. -/
def charUnit (c : Char) : StringUnit :=
  if c.toNat < 0x20 && !(['\x08', '\x0c', '\n', '\r', '\t'].contains c) then .code c.toNat else .char c

theorem hex4?_control : ∀ n < 0x20,
    hex4? '0' '0' (Nat.digitChar (n / 16)) (Nat.digitChar (n % 16)) = some n := by
  decide

theorem stringUnits_escapedChar (c : Char) (s : List Char) :
    stringUnits (escapedChar c ++ s) =
      (charUnit c :: (stringUnits s).1, (stringUnits s).2.1, (stringUnits s).2.2) := by
  by_cases hquote : c = '"'
  · subst hquote
    rfl
  by_cases hslash : c = '\\'
  · subst hslash
    rfl
  by_cases h8 : c = '\x08'
  · subst h8
    rfl
  by_cases hc : c = '\x0c'
  · subst hc
    rfl
  by_cases hn : c = '\n'
  · subst hn
    rfl
  by_cases hr : c = '\r'
  · subst hr
    rfl
  by_cases ht : c = '\t'
  · subst ht
    rfl
  by_cases hcontrol : c.toNat < 0x20
  · have hhex := hex4?_control c.toNat hcontrol
    simp [escapedChar, charUnit, hquote, hslash, h8, hc, hn, hr, ht, hcontrol, stringUnits, hhex]
  · simp [escapedChar, charUnit, hquote, hslash, h8, hc, hn, hr, ht, hcontrol, stringUnits]

theorem stringUnits_escaped (cs rest : List Char) :
    stringUnits (cs.flatMap escapedChar ++ '"' :: rest) = (cs.map charUnit, .closed, rest) := by
  induction cs with
  | nil => rfl
  | cons c cs ih => rw [List.flatMap_cons, List.append_assoc, stringUnits_escapedChar, ih, List.map_cons]

theorem unitChars_charUnit (cs : List Char) : unitChars .closed (cs.map charUnit) = .ok cs := by
  induction cs with
  | nil => rfl
  | cons c cs ih =>
    rw [List.map_cons, charUnit]
    split
    · rename_i h
      have hsmall : c.toNat < 0x20 := of_decide_eq_true (Bool.and_eq_true_iff.mp h).1
      have hlow : ¬(decide (0xDC00 ≤ c.toNat) && decide (c.toNat ≤ 0xDFFF)) = true := by
        simp only [Bool.and_eq_true, decide_eq_true_eq]
        omega
      have hhigh : (decide (c.toNat < 0xD800) || decide (0xDBFF < c.toNat)) = true := by
        simp only [Bool.or_eq_true, decide_eq_true_eq]
        omega
      unfold unitChars
      simp only [if_neg hlow, if_pos hhigh, ih, Except.map, Char.ofNat_toNat]
    · simp only [unitChars, ih, Except.map]

/-- A written string is one token. -/
theorem tokens_stringText (s : String) (rest : List Char) :
    tokens (stringText s ++ rest) = .string (.ok s) :: tokens rest := by
  have htoken : scan '"' (s.toList.flatMap escapedChar ++ '"' :: rest) = (.string (.ok s), rest) := by
    show stringToken _ = _
    rw [stringToken, stringUnits_escaped]
    simp only [unitChars_charUnit, Except.map, String.ofList_toList, if_true]
  have htext : stringText s ++ rest = '"' :: (s.toList.flatMap escapedChar ++ '"' :: rest) := by
    simp [stringText]
  rw [htext, tokens_cons rfl htoken]

/-! ### Other tokens -/

theorem tokens_nullText (rest : List Char) : tokens (nullText ++ rest) = .null :: tokens rest :=
  tokens_cons rfl rfl

theorem tokens_boolText (b : Bool) (rest : List Char) : tokens (boolText b ++ rest) = .bool b :: tokens rest := by
  cases b
  · exact tokens_cons rfl rfl
  · exact tokens_cons rfl rfl

theorem tokens_openList (rest : List Char) : tokens ('[' :: rest) = .openList :: tokens rest :=
  tokens_cons rfl rfl

theorem tokens_closeList (rest : List Char) : tokens (']' :: rest) = .closeList :: tokens rest :=
  tokens_cons rfl rfl

theorem tokens_openObject (rest : List Char) : tokens ('\x7b' :: rest) = .openObject :: tokens rest :=
  tokens_cons rfl rfl

theorem tokens_closeObject (rest : List Char) : tokens ('\x7d' :: rest) = .closeObject :: tokens rest :=
  tokens_cons rfl rfl

theorem tokens_comma (rest : List Char) : tokens (',' :: rest) = .comma :: tokens rest :=
  tokens_cons rfl rfl

theorem tokens_colon (rest : List Char) : tokens (':' :: rest) = .colon :: tokens rest :=
  tokens_cons rfl rfl

end Catalogue.Json
