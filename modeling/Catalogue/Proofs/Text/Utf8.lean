import Catalogue.Text.Utf8
import Catalogue.Index.Cell
import Catalogue.Proofs.Text.Case
import Mathlib.Data.String.Basic

/-! Texts as bytes. Bytes of a text are read back as the text (`text?_encode`), they
order texts as their characters do (`compareBytes_encode`), and a byte of the lower
half is a character by itself (`mem_of_mem_encode`). A text that begins with such a byte
does not change how the bytes before it are read (`text?_append`). -/
namespace Catalogue.Text.Utf8

open Index.Cell (compareBytes)

/-! ### One character -/

/-- The bytes of a character, by the size of its code point. -/
inductive Written (n : Nat) : List UInt8 → Prop where
  | one : n < 0x80 → Written n [.ofNat n]
  | two : 0x80 ≤ n → n < 0x800 → Written n [.ofNat (n / 64 + 0xC0), .ofNat (n % 64 + 0x80)]
  | three : 0x800 ≤ n → n < 0x10000 → (n < 0xD800 ∨ 0xDFFF < n) →
      Written n [.ofNat (n / 4096 + 0xE0), .ofNat (n / 64 % 64 + 0x80), .ofNat (n % 64 + 0x80)]
  | four : 0x10000 ≤ n → n < 0x110000 →
      Written n [.ofNat (n / 262144 + 0xF0), .ofNat (n / 4096 % 64 + 0x80),
        .ofNat (n / 64 % 64 + 0x80), .ofNat (n % 64 + 0x80)]

/-- A code point is below 0x110000 and no surrogate. -/
theorem toNat_bounds (c : Char) : c.toNat < 0x110000 ∧ (c.toNat < 0xD800 ∨ 0xDFFF < c.toNat) := by
  have hvalid : c.toNat < 0xD800 ∨ (0xDFFF < c.toNat ∧ c.toNat < 0x110000) := c.valid
  omega

theorem written (c : Char) : Written c.toNat (String.utf8EncodeChar c) := by
  obtain ⟨hlt, hsurrogate⟩ := toNat_bounds c
  have hn : c.val.toNat = c.toNat := rfl
  unfold String.utf8EncodeChar
  simp only [hn]
  by_cases h1 : c.toNat ≤ 0x7F
  · rw [if_pos h1]
    exact .one (by omega)
  by_cases h2 : c.toNat ≤ 0x7FF
  · rw [if_neg h1, if_pos h2, Nat.mod_eq_of_lt (a := c.toNat / 64) (by omega)]
    exact .two (by omega) (by omega)
  by_cases h3 : c.toNat ≤ 0xFFFF
  · rw [if_neg h1, if_neg h2, if_pos h3, Nat.mod_eq_of_lt (a := c.toNat / 4096) (by omega)]
    exact .three (by omega) (by omega) hsurrogate
  · rw [if_neg h1, if_neg h2, if_neg h3, Nat.mod_eq_of_lt (a := c.toNat / 262144) (by omega)]
    exact .four (by omega) (by omega)

theorem toNat_ofNat {n : Nat} (h : n < 256) : (UInt8.ofNat n).toNat = n := by
  simp only [UInt8.toNat_ofNat']
  omega

/-! ### Order -/

theorem compareBytes_of_lt {m n : Nat} (hm : m < 256) (hn : n < 256) (h : m < n) (xs ys : List UInt8) :
    compareBytes (.ofNat m :: xs) (.ofNat n :: ys) = .lt := by
  have hlt : UInt8.ofNat m < UInt8.ofNat n := by
    rw [UInt8.lt_iff_toNat_lt, toNat_ofNat hm, toNat_ofNat hn]
    exact h
  simp [compareBytes, hlt]

theorem compareBytes_self (b : UInt8) (xs ys : List UInt8) :
    compareBytes (b :: xs) (b :: ys) = compareBytes xs ys := by
  simp [compareBytes]

/-- If a first byte is less, or is the same and the rest comes before, the whole comes before. -/
theorem compareBytes_cons {m n : Nat} (hm : m < 256) (hn : n < 256) (hle : m ≤ n) {xs ys : List UInt8}
    (h : m = n → compareBytes xs ys = .lt) : compareBytes (.ofNat m :: xs) (.ofNat n :: ys) = .lt := by
  rcases Nat.lt_or_eq_of_le hle with hlt | rfl
  · exact compareBytes_of_lt hm hn hlt xs ys
  · rw [compareBytes_self]
    exact h rfl

theorem compareBytes_append (bs xs ys : List UInt8) :
    compareBytes (bs ++ xs) (bs ++ ys) = compareBytes xs ys := by
  induction bs with
  | nil => rfl
  | cons b bs ih => rw [List.cons_append, List.cons_append, compareBytes_self, ih]

/-- A character with a smaller code point has bytes that come before, whatever follows them. -/
theorem compareBytes_char {c d : Char} (h : c < d) (xs ys : List UInt8) :
    compareBytes (String.utf8EncodeChar c ++ xs) (String.utf8EncodeChar d ++ ys) = .lt := by
  have hlt : c.toNat < d.toNat := h
  have hc := written c
  have hd := written d
  generalize String.utf8EncodeChar c = bs at hc
  generalize String.utf8EncodeChar d = ds at hd
  cases hc <;> cases hd <;> simp only [List.cons_append, List.nil_append] <;>
    (try omega) <;>
    (try exact compareBytes_of_lt (by omega) (by omega) (by omega) ..)
  · exact compareBytes_cons (by omega) (by omega) (by omega) fun _ =>
      compareBytes_of_lt (by omega) (by omega) (by omega) ..
  · exact compareBytes_cons (by omega) (by omega) (by omega) fun _ =>
      compareBytes_cons (by omega) (by omega) (by omega) fun _ =>
      compareBytes_of_lt (by omega) (by omega) (by omega) ..
  · exact compareBytes_cons (by omega) (by omega) (by omega) fun _ =>
      compareBytes_cons (by omega) (by omega) (by omega) fun _ =>
      compareBytes_cons (by omega) (by omega) (by omega) fun _ =>
      compareBytes_of_lt (by omega) (by omega) (by omega) ..

/-- Bytes order texts as their characters do. -/
theorem compareBytes_encode {s t : String} (h : s < t) : compareBytes (encode s) (encode t) = .lt := by
  have hlist : s.toList < t.toList := h
  unfold encode
  generalize s.toList = cs at hlist
  generalize t.toList = ds at hlist
  induction hlist with
  | nil =>
    rename_i d ds
    rw [List.flatMap_cons]
    cases hd : String.utf8EncodeChar d with
    | nil => exact absurd hd String.utf8EncodeChar_ne_nil
    | cons b bs => rfl
  | rel h => exact compareBytes_char h _ _
  | cons _ ih =>
    rw [List.flatMap_cons, List.flatMap_cons, compareBytes_append]
    exact ih

theorem compareBytes_swap (as bs : List UInt8) : (compareBytes as bs).swap = compareBytes bs as := by
  fun_induction compareBytes as bs with
  | case1 => rfl
  | case2 => rfl
  | case3 => rfl
  | case4 a as b bs h => simp [compareBytes, h, UInt8.lt_asymm h]
  | case5 a as b bs h h' => simp [compareBytes, h']
  | case6 a as b bs h h' ih => simp [compareBytes, h, h', ih]

/-- Texts come in the order of their bytes. -/
theorem compareBytes_encode_eq_lt {s t : String} : compareBytes (encode s) (encode t) = .lt ↔ s < t := by
  refine ⟨fun h => ?_, compareBytes_encode⟩
  rcases lt_trichotomy s t with hlt | rfl | hgt
  · exact hlt
  · have hself := compareBytes_append (encode s) [] []
    rw [List.append_nil, h] at hself
    cases hself
  · have hswap := compareBytes_swap (encode t) (encode s)
    rw [compareBytes_encode hgt, h] at hswap
    cases hswap

/-! ### Reading back -/

theorem decodeFrom_ascii {b : UInt8} (h : b.toNat < 0x80) (rest : List UInt8) :
    decodeFrom none (b :: rest) = .char (Char.ofNat b.toNat) :: decodeFrom none rest := by
  simp [decodeFrom, h]

theorem decodeFrom_lead {b : UInt8} {missing low high : Nat} (h : 0x80 ≤ b.toNat)
    (hf : following b = some (missing, low, high)) (rest : List UInt8) :
    decodeFrom none (b :: rest) = decodeFrom (some ⟨[b], leadBits b, missing, low, high⟩) rest := by
  simp [decodeFrom, Nat.not_lt.mpr h, hf]

theorem decodeFrom_more {p : Pending} {b : UInt8} (hlow : p.low ≤ b.toNat) (hhigh : b.toNat ≤ p.high)
    (hm : 1 < p.missing) (rest : List UInt8) :
    decodeFrom (some p) (b :: rest) = decodeFrom
      (some ⟨b :: p.taken, p.value * 64 + b.toNat % 64, p.missing - 1, 0x80, 0xBF⟩) rest := by
  simp [decodeFrom, hlow, hhigh, Nat.not_le.mpr hm]

theorem decodeFrom_last {p : Pending} {b : UInt8} (hlow : p.low ≤ b.toNat) (hhigh : b.toNat ≤ p.high)
    (hm : p.missing ≤ 1) (rest : List UInt8) :
    decodeFrom (some p) (b :: rest) =
      .char (Char.ofNat (p.value * 64 + b.toNat % 64)) :: decodeFrom none rest := by
  simp [decodeFrom, hlow, hhigh, hm]

/-- What may follow the first byte of a character of two bytes. -/
theorem following_two {n : Nat} (hlo : 0x80 ≤ n) (hhi : n < 0x800) :
    following (.ofNat (n / 64 + 0xC0)) = some (1, 0x80, 0xBF) := by
  have h : (UInt8.ofNat (n / 64 + 0xC0)).toNat = n / 64 + 0xC0 := toNat_ofNat (by omega)
  unfold following
  simp only [h]
  rw [if_pos (by simp; omega)]

/-- What may follow the first byte of a character of three bytes, its second among it. -/
theorem following_three {n : Nat} (hlo : 0x800 ≤ n) (hhi : n < 0x10000) (hs : n < 0xD800 ∨ 0xDFFF < n) :
    ∃ low high, following (.ofNat (n / 4096 + 0xE0)) = some (2, low, high) ∧
      low ≤ n / 64 % 64 + 0x80 ∧ n / 64 % 64 + 0x80 ≤ high := by
  have h : (UInt8.ofNat (n / 4096 + 0xE0)).toNat = n / 4096 + 0xE0 := toNat_ofNat (by omega)
  unfold following
  simp only [h]
  rw [if_neg (by simp)]
  by_cases h0 : n / 4096 + 0xE0 = 0xE0
  · exact ⟨0xA0, 0xBF, by rw [if_pos (by simpa using h0)], by omega, by omega⟩
  rw [if_neg (by simpa using h0)]
  by_cases hd : n / 4096 + 0xE0 = 0xED
  · exact ⟨0x80, 0x9F, by rw [if_pos (by simpa using hd)], by omega, by omega⟩
  rw [if_neg (by simpa using hd)]
  exact ⟨0x80, 0xBF, by rw [if_pos (by simp; omega)], by omega, by omega⟩

/-- What may follow the first byte of a character of four bytes, its second among it. -/
theorem following_four {n : Nat} (hlo : 0x10000 ≤ n) (hhi : n < 0x110000) :
    ∃ low high, following (.ofNat (n / 262144 + 0xF0)) = some (3, low, high) ∧
      low ≤ n / 4096 % 64 + 0x80 ∧ n / 4096 % 64 + 0x80 ≤ high := by
  have h : (UInt8.ofNat (n / 262144 + 0xF0)).toNat = n / 262144 + 0xF0 := toNat_ofNat (by omega)
  unfold following
  simp only [h]
  rw [if_neg (by simp), if_neg (by simp), if_neg (by simp), if_neg (by simp)]
  by_cases h0 : n / 262144 + 0xF0 = 0xF0
  · exact ⟨0x90, 0xBF, by rw [if_pos (by simpa using h0)], by omega, by omega⟩
  rw [if_neg (by simpa using h0)]
  by_cases h4 : n / 262144 + 0xF0 = 0xF4
  · exact ⟨0x80, 0x8F, by rw [if_pos (by simpa using h4)], by omega, by omega⟩
  rw [if_neg (by simpa using h4)]
  exact ⟨0x80, 0xBF, by rw [if_pos (by simp; omega)], by omega, by omega⟩

/-- The bytes of a character are read as the character. -/
theorem decodeFrom_char (c : Char) (rest : List UInt8) :
    decodeFrom none (String.utf8EncodeChar c ++ rest) = .char c :: decodeFrom none rest := by
  have hc := written c
  have hofNat : ∀ v, v = c.toNat → Char.ofNat v = c := fun v hv => by rw [hv, Char.ofNat_toNat]
  generalize String.utf8EncodeChar c = bs at hc
  cases hc with
  | one h =>
    rw [List.cons_append, List.nil_append, decodeFrom_ascii (by rw [toNat_ofNat] <;> omega),
      toNat_ofNat (by omega), Char.ofNat_toNat]
  | two hlo hhi =>
    have h1 : (UInt8.ofNat (c.toNat / 64 + 0xC0)).toNat = c.toNat / 64 + 0xC0 := toNat_ofNat (by omega)
    have h2 : (UInt8.ofNat (c.toNat % 64 + 0x80)).toNat = c.toNat % 64 + 0x80 := toNat_ofNat (by omega)
    simp only [List.cons_append, List.nil_append]
    rw [decodeFrom_lead (by omega) (following_two hlo hhi),
      decodeFrom_last (by simp only; omega) (by simp only; omega) (by simp)]
    congr 2
    apply hofNat
    simp only [leadBits, h1, h2, if_pos (show c.toNat / 64 + 0xC0 < 0xE0 by omega)]
    omega
  | three hlo hhi hs =>
    have h1 : (UInt8.ofNat (c.toNat / 4096 + 0xE0)).toNat = c.toNat / 4096 + 0xE0 := toNat_ofNat (by omega)
    have h2 : (UInt8.ofNat (c.toNat / 64 % 64 + 0x80)).toNat = c.toNat / 64 % 64 + 0x80 :=
      toNat_ofNat (by omega)
    have h3 : (UInt8.ofNat (c.toNat % 64 + 0x80)).toNat = c.toNat % 64 + 0x80 := toNat_ofNat (by omega)
    obtain ⟨low, high, hf, hl, hh⟩ := following_three hlo hhi hs
    simp only [List.cons_append, List.nil_append]
    rw [decodeFrom_lead (by omega) hf,
      decodeFrom_more (by simp only; omega) (by simp only; omega) (by simp),
      decodeFrom_last (by simp only; omega) (by simp only; omega) (by simp)]
    congr 2
    apply hofNat
    simp only [leadBits, h1, h2, h3, if_neg (show ¬c.toNat / 4096 + 0xE0 < 0xE0 by omega),
      if_pos (show c.toNat / 4096 + 0xE0 < 0xF0 by omega)]
    omega
  | four hlo hhi =>
    have h1 : (UInt8.ofNat (c.toNat / 262144 + 0xF0)).toNat = c.toNat / 262144 + 0xF0 :=
      toNat_ofNat (by omega)
    have h2 : (UInt8.ofNat (c.toNat / 4096 % 64 + 0x80)).toNat = c.toNat / 4096 % 64 + 0x80 :=
      toNat_ofNat (by omega)
    have h3 : (UInt8.ofNat (c.toNat / 64 % 64 + 0x80)).toNat = c.toNat / 64 % 64 + 0x80 :=
      toNat_ofNat (by omega)
    have h4 : (UInt8.ofNat (c.toNat % 64 + 0x80)).toNat = c.toNat % 64 + 0x80 := toNat_ofNat (by omega)
    obtain ⟨low, high, hf, hl, hh⟩ := following_four hlo hhi
    simp only [List.cons_append, List.nil_append]
    rw [decodeFrom_lead (by omega) hf,
      decodeFrom_more (by simp only; omega) (by simp only; omega) (by simp),
      decodeFrom_more (by simp only; omega) (by simp only; omega) (by simp),
      decodeFrom_last (by simp only; omega) (by simp only; omega) (by simp)]
    congr 2
    apply hofNat
    simp only [leadBits, h1, h2, h3, h4, if_neg (show ¬c.toNat / 262144 + 0xF0 < 0xE0 by omega),
      if_neg (show ¬c.toNat / 262144 + 0xF0 < 0xF0 by omega)]
    omega

theorem decode_encode (s : String) : decode (encode s) = s.toList.map Piece.char := by
  unfold decode encode
  induction s.toList with
  | nil => rfl
  | cons c cs ih => rw [List.flatMap_cons, decodeFrom_char, ih, List.map_cons]

theorem mapM_char?_eq_some {pieces : List Piece} {cs : List Char} :
    pieces.mapM Piece.char? = some cs ↔ pieces = cs.map Piece.char := by
  induction pieces generalizing cs with
  | nil => cases cs <;> simp
  | cons x pieces ih =>
    rw [List.mapM_cons]
    cases x with
    | broken bytes => cases cs <;> simp [Piece.char?]
    | char c => cases cs <;> simp [Piece.char?, Option.bind_eq_some_iff, ih, and_comm]

/-- Bytes are a text if its characters are read from them and nothing else. -/
theorem text?_eq_some {bytes : List UInt8} {s : String} :
    text? bytes = some s ↔ decode bytes = s.toList.map Piece.char := by
  rw [text?, Option.map_eq_some_iff, ← mapM_char?_eq_some]
  constructor
  · rintro ⟨cs, hcs, rfl⟩
    rw [String.toList_ofList]
    exact hcs
  · exact fun h => ⟨_, h, String.ofList_toList⟩

/-- The bytes of a text are read back as the text. -/
theorem text?_encode (s : String) : text? (encode s) = some s := text?_eq_some.mpr (decode_encode s)

/-- A byte of the lower half is a character by itself. -/
theorem mem_of_mem_encode {s : String} {b : UInt8} (h : b ∈ encode s) (hb : b.toNat < 0x80) :
    Char.ofNat b.toNat ∈ s.toList := by
  obtain ⟨c, hc, hmem⟩ := List.mem_flatMap.mp h
  have hw := written c
  generalize String.utf8EncodeChar c = bs at hw hmem
  cases hw <;> simp only [List.mem_cons, List.not_mem_nil, or_false] at hmem
  · rename_i hlt
    rw [hmem, toNat_ofNat (by omega), Char.ofNat_toNat]
    exact hc
  all_goals
    exfalso
    rcases hmem with rfl | rfl | rfl | rfl <;> rw [toNat_ofNat (by omega)] at hb <;> omega

/-! ### Bytes before a text -/

/-- A character of several bytes of which some are missing: the byte that comes next is of the upper half, and so is
the code point, whatever the bytes are. -/
structure Pending.Wide (p : Pending) : Prop where
  missing : 1 ≤ p.missing
  low : 0x80 ≤ p.low
  high : p.high ≤ 0xBF
  value : 0x80 ≤ p.value * 64 ^ p.missing + (p.low - 0x80) * 64 ^ (p.missing - 1)

theorem wide_following {b : UInt8} {missing low high : Nat} (h : following b = some (missing, low, high)) :
    Pending.Wide ⟨[b], leadBits b, missing, low, high⟩ := by
  have htwo : b.toNat < 0xE0 → leadBits b = b.toNat % 0x20 := fun h => if_pos h
  have hthree : ¬b.toNat < 0xE0 → b.toNat < 0xF0 → leadBits b = b.toNat % 0x10 := fun h h' =>
    (if_neg h).trans (if_pos h')
  have hfour : ¬b.toNat < 0xE0 → ¬b.toNat < 0xF0 → leadBits b = b.toNat % 0x08 := fun h h' =>
    (if_neg h).trans (if_neg h')
  unfold following at h
  simp only [Bool.and_eq_true, decide_eq_true_eq, beq_iff_eq] at h
  repeat' split at h
  all_goals cases h
  all_goals constructor <;> simp only <;> omega

theorem wide_next {p : Pending} (hp : p.Wide) {b : UInt8} (hlow : p.low ≤ b.toNat) (hhigh : b.toNat ≤ p.high) :
    0x80 ≤ (p.value * 64 + b.toNat % 64) * 64 ^ (p.missing - 1) := by
  obtain ⟨hmissing, hlow', hhigh', hvalue⟩ := hp
  have hbits : b.toNat % 64 = b.toNat - 0x80 := by omega
  have hpow : 64 ^ p.missing = 64 * 64 ^ (p.missing - 1) := by
    rw [← Nat.pow_succ', Nat.succ_eq_add_one, Nat.sub_add_cancel hmissing]
  calc 0x80 ≤ p.value * 64 ^ p.missing + (p.low - 0x80) * 64 ^ (p.missing - 1) := hvalue
    _ ≤ p.value * 64 ^ p.missing + (b.toNat % 64) * 64 ^ (p.missing - 1) :=
      Nat.add_le_add_left (Nat.mul_le_mul_right _ (by omega)) _
    _ = (p.value * 64 + b.toNat % 64) * 64 ^ (p.missing - 1) := by rw [hpow, Nat.add_mul, Nat.mul_assoc]

theorem wide_more {p : Pending} (hp : p.Wide) {b : UInt8} (hlow : p.low ≤ b.toNat) (hhigh : b.toNat ≤ p.high)
    (hm : ¬p.missing ≤ 1) :
    Pending.Wide ⟨b :: p.taken, p.value * 64 + b.toNat % 64, p.missing - 1, 0x80, 0xBF⟩ :=
  ⟨by simp only; omega, Nat.le_refl _, Nat.le_refl _, (wide_next hp hlow hhigh).trans (Nat.le_add_right _ _)⟩

/-- A character that is a single byte other than zero. -/
def Piece.Single : Piece → Prop
  | char c => 0 < c.toNat ∧ c.toNat < 0x80
  | broken _ => False

/-- What a byte gives, and the character that is begun after it, whatever follows. It gives single bytes only
if it is one itself. -/
theorem decodeFrom_step {pending : Option Pending} (hp : ∀ p ∈ pending, p.Wide) (b : UInt8) :
    ∃ pieces next, (∀ p ∈ next, p.Wide) ∧
      (∀ rest, decodeFrom pending (b :: rest) = pieces ++ decodeFrom next rest) ∧
      ((∀ x ∈ pieces, x.Single) → next = none → pending = none ∧ pieces = [.char (Char.ofNat b.toNat)]) := by
  have hstart : ∃ pieces next, (∀ p ∈ next, p.Wide) ∧
      (∀ rest, decodeFrom none (b :: rest) = pieces ++ decodeFrom next rest) ∧
      ((∀ x ∈ pieces, x.Single) → next = none → pieces = [.char (Char.ofNat b.toNat)]) := by
    by_cases hb : b.toNat < 0x80
    · exact ⟨_, none, nofun, decodeFrom_ascii hb, fun _ _ => rfl⟩
    · cases hf : following b with
      | none =>
        exact ⟨[.broken [b]], none, nofun, fun rest => by simp [decodeFrom, hb, hf],
          fun h => (h _ (List.mem_singleton_self _)).elim⟩
      | some f =>
        obtain ⟨missing, low, high⟩ := f
        exact ⟨[], some _, fun p hp => by cases hp; exact wide_following hf,
          fun rest => decodeFrom_lead (Nat.le_of_not_lt hb) hf rest, nofun⟩
  cases pending with
  | none =>
    obtain ⟨pieces, next, hnext, heq, hsingle⟩ := hstart
    exact ⟨pieces, next, hnext, heq, fun h hnone => ⟨rfl, hsingle h hnone⟩⟩
  | some p =>
    have hwide := hp p rfl
    by_cases hrange : p.low ≤ b.toNat ∧ b.toNat ≤ p.high
    · by_cases hm : p.missing ≤ 1
      · refine ⟨[.char (Char.ofNat (p.value * 64 + b.toNat % 64))], none, nofun,
          fun rest => decodeFrom_last hrange.1 hrange.2 hm rest, fun h => ?_⟩
        have hvalue := wide_next hwide hrange.1 hrange.2
        rw [Nat.sub_eq_zero_of_le hm, Nat.pow_zero, Nat.mul_one] at hvalue
        obtain ⟨hpos, hlt⟩ := h _ (List.mem_singleton_self _)
        rcases Text.toNat_ofNat (p.value * 64 + b.toNat % 64) with hcode | hcode <;> omega
      · exact ⟨[], some _, fun q hq => by cases hq; exact wide_more hwide hrange.1 hrange.2 hm,
          fun rest => decodeFrom_more hrange.1 hrange.2 (Nat.lt_of_not_le hm) rest, nofun⟩
    · obtain ⟨pieces, next, hnext, heq, -⟩ := hstart
      refine ⟨.broken p.taken.reverse :: pieces, next, hnext, fun rest => ?_,
        fun h => (h _ (List.mem_cons_self ..)).elim⟩
      rw [List.cons_append, ← heq]
      simp [decodeFrom, hrange]

/-- What bytes before a text are does not depend on it, if its first character is a single byte. -/
theorem decodeFrom_append {pending : Option Pending} (hp : ∀ p ∈ pending, p.Wide) (bytes : List UInt8) {b : UInt8}
    (hb : b.toNat < 0x80) (rest : List UInt8) :
    decodeFrom pending (bytes ++ b :: rest) = decodeFrom pending bytes ++ decodeFrom none (b :: rest) := by
  induction bytes generalizing pending with
  | nil =>
    cases pending with
    | none => rfl
    | some p =>
      have hlow : ¬(p.low ≤ b.toNat) := fun h => absurd ((hp p rfl).low.trans h) (Nat.not_le.mpr hb)
      simp [decodeFrom, hlow, hb]
  | cons c bytes ih =>
    obtain ⟨pieces, next, hnext, heq, -⟩ := decodeFrom_step hp c
    rw [List.cons_append, heq, heq, ih hnext, List.append_assoc]

/-- Bytes that are read as characters of a single byte are these characters. -/
theorem decodeFrom_single {pending : Option Pending} (hp : ∀ p ∈ pending, p.Wide) {bytes : List UInt8}
    (h : ∀ x ∈ decodeFrom pending bytes, x.Single) :
    pending = none ∧ decodeFrom pending bytes = bytes.map fun b => .char (Char.ofNat b.toNat) := by
  induction bytes generalizing pending with
  | nil =>
    cases pending with
    | none => exact ⟨rfl, rfl⟩
    | some p => exact (h _ (List.mem_singleton_self _)).elim
  | cons b bytes ih =>
    obtain ⟨pieces, next, hnext, heq, hsingle⟩ := decodeFrom_step hp b
    rw [heq] at h ⊢
    obtain ⟨hfirst, hrest⟩ := List.forall_mem_append.mp h
    obtain ⟨rfl, hmap⟩ := ih hnext hrest
    obtain ⟨rfl, rfl⟩ := hsingle hfirst rfl
    exact ⟨rfl, by rw [hmap]; rfl⟩

/-- What bytes say that a text follows, of which the first character is a single byte. -/
theorem text?_append (bytes : List UInt8) {c : Char} (hc : c.toNat < 0x80) (cs : List Char) :
    text? (bytes ++ encode (String.ofList (c :: cs))) = (text? bytes).map (· ++ String.ofList (c :: cs)) := by
  have hfirst : ∃ b : UInt8, b.toNat < 0x80 ∧ String.utf8EncodeChar c = [b] := by
    have hwritten := written c
    generalize String.utf8EncodeChar c = bs at hwritten
    cases hwritten with
    | one h => exact ⟨_, by rw [toNat_ofNat (by omega)]; exact h, rfl⟩
    | two h => omega
    | three h => omega
    | four h => omega
  obtain ⟨b, hb, hbytes⟩ := hfirst
  have hencode : encode (String.ofList (c :: cs)) = b :: encode (String.ofList cs) := by
    simp only [encode, String.toList_ofList, List.flatMap_cons, hbytes, List.singleton_append]
  have hdecode : decode (bytes ++ encode (String.ofList (c :: cs))) = decode bytes ++ (c :: cs).map Piece.char := by
    have hafter := decode_encode (String.ofList (c :: cs))
    rw [String.toList_ofList] at hafter
    rw [← hafter, hencode]
    have hpending : ∀ p ∈ (none : Option Pending), p.Wide := nofun
    exact decodeFrom_append hpending bytes hb _
  rw [text?, text?, hdecode, List.mapM_append, mapM_char?_eq_some.mpr rfl]
  cases (decode bytes).mapM Piece.char? with
  | none => rfl
  | some ds => exact congrArg some (String.ofList_append ..)

end Catalogue.Text.Utf8
