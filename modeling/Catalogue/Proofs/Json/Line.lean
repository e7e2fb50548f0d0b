import Catalogue.Json.Printer
import Catalogue.Proofs.Number.Digits

/-! Compact texts stand on one line. Strings are written with escapes for control
characters, and nothing else in a compact text could be one (`printable_compact`). -/
namespace Catalogue

open Number

/-- A text without control characters. -/
def Printable (s : List Char) : Prop := ∀ c ∈ s, 32 ≤ c.toNat

theorem printable_append {s t : List Char} : Printable (s ++ t) ↔ Printable s ∧ Printable t :=
  List.forall_mem_append

theorem printable_cons {c : Char} {s : List Char} : Printable (c :: s) ↔ 32 ≤ c.toNat ∧ Printable s :=
  List.forall_mem_cons

theorem printable_nil : Printable [] := List.forall_mem_nil _

theorem printable_of_all {s : List Char} (h : s.all (fun c => decide (32 ≤ c.toNat)) = true) : Printable s :=
  fun c hc => of_decide_eq_true (List.all_eq_true.mp h c hc)

theorem printable_single {c : Char} (hc : 32 ≤ c.toNat) : Printable [c] := printable_cons.mpr ⟨hc, printable_nil⟩

theorem Printable.take {s : List Char} (h : Printable s) (n : Nat) : Printable (s.take n) :=
  fun c hc => h c (List.mem_of_mem_take hc)

theorem Printable.drop {s : List Char} (h : Printable s) (n : Nat) : Printable (s.drop n) :=
  fun c hc => h c (List.mem_of_mem_drop hc)

/-! ### Numbers -/

namespace Number

theorem printable_decimalDigits (n : Nat) : Printable (decimalDigits n) := by
  intro c hc
  have hlow : 48 ≤ c.toNat := (isDigit_of_mem_decimalDigits hc).1
  omega

theorem printable_zeros (n : Nat) : Printable (List.replicate n '0') := by
  intro c hc
  rw [List.eq_of_mem_replicate hc]
  decide

theorem printable_intText (n : Int) : Printable (intText n) := by
  unfold intText
  split
  · exact printable_cons.mpr ⟨by decide, printable_decimalDigits _⟩
  · exact printable_decimalDigits _

theorem printable_positional {whole : List Char} (hwhole : Printable whole) (d : Decimal) :
    Printable (d.positional whole) := by
  have hds := printable_decimalDigits d.digits
  have hzeros := printable_zeros
  unfold Decimal.positional
  simp only
  split
  · exact printable_append.mpr ⟨printable_append.mpr ⟨hds, hzeros _⟩, hwhole⟩
  split
  · refine printable_append.mpr ⟨printable_append.mpr ⟨hds.take _, ?_⟩, hds.drop _⟩
    exact printable_of_all rfl
  · refine printable_append.mpr ⟨printable_append.mpr ⟨?_, hzeros _⟩, hds⟩
    exact printable_of_all rfl

theorem printable_scientific (d : Decimal) : Printable d.scientific := by
  have hds := printable_decimalDigits d.digits
  unfold Decimal.scientific
  simp only [printable_append]
  refine ⟨⟨⟨⟨hds.take _, ?_⟩, printable_of_all rfl⟩, ?_⟩, printable_decimalDigits _⟩
  · split
    · exact printable_nil
    · exact printable_cons.mpr ⟨by decide, hds.drop _⟩
  · split <;> exact printable_of_all rfl

theorem printable_interchangeText (x : Binary64) : Printable x.interchangeText := by
  unfold Binary64.interchangeText Binary64.signText
  refine printable_append.mpr ⟨?_, ?_⟩
  · split
    · exact printable_of_all rfl
    · exact printable_nil
  · split
    · exact printable_positional (printable_of_all rfl) _
    · exact printable_scientific _

end Number

/-! ### Strings -/

namespace Json

theorem printable_digitChar {n : Nat} (h : n < 16) : 32 ≤ (Nat.digitChar n).toNat := by
  have hall : ∀ n < 16, 32 ≤ (Nat.digitChar n).toNat := by decide
  exact hall n h

theorem printable_escapedChar (c : Char) : Printable (escapedChar c) := by
  unfold escapedChar
  by_cases hcontrol : c.toNat < 32
  · have hcode : Printable ['\\', 'u', '0', '0', Nat.digitChar (c.toNat / 16), Nat.digitChar (c.toNat % 16)] := by
      simp only [printable_cons]
      exact ⟨by decide, by decide, by decide, by decide, printable_digitChar (by omega),
        printable_digitChar (by omega), printable_nil⟩
    rw [if_pos hcontrol]
    repeat' split
    all_goals first | exact printable_of_all rfl | exact hcode
  · have hplain : Printable [c] := printable_single (Nat.le_of_not_lt hcontrol)
    rw [if_neg hcontrol]
    repeat' split
    all_goals first | exact printable_of_all rfl | exact hplain

theorem printable_stringText (s : String) : Printable (stringText s) := by
  refine printable_append.mpr ⟨printable_append.mpr ⟨printable_of_all rfl, fun c hc => ?_⟩,
    printable_of_all rfl⟩
  obtain ⟨d, -, hd⟩ := List.mem_flatMap.mp hc
  exact printable_escapedChar d c hd

/-! ### Values -/

mutual

theorem printable_compactChars (v : Json) : Printable (compactChars v) := by
  cases v with
  | null => exact printable_of_all (s := nullText) rfl
  | bool b => cases b <;> exact printable_of_all rfl
  | int n => exact printable_intText n
  | float x => exact printable_interchangeText x
  | str s => exact printable_stringText s
  | arr items =>
    unfold compactChars
    exact printable_append.mpr ⟨printable_append.mpr ⟨printable_of_all rfl, printable_compactItems items⟩,
      printable_of_all rfl⟩
  | obj entries =>
    unfold compactChars
    exact printable_append.mpr ⟨printable_append.mpr ⟨printable_of_all rfl,
      printable_compactEntries entries⟩, printable_of_all rfl⟩

theorem printable_compactItems (items : List Json) : Printable (compactItems items) := by
  match items with
  | [] => exact printable_nil
  | [v] => exact printable_compactChars v
  | v :: w :: rest =>
    exact printable_append.mpr ⟨printable_append.mpr ⟨printable_compactChars v, printable_of_all rfl⟩,
      printable_compactItems (w :: rest)⟩

theorem printable_compactEntries (entries : List (String × Json)) : Printable (compactEntries entries) := by
  have hentry (k : String) (v : Json) (hv : Printable (compactChars v)) :
      Printable (stringText k ++ [':'] ++ compactChars v) :=
    printable_append.mpr ⟨printable_append.mpr ⟨printable_stringText k, printable_of_all rfl⟩, hv⟩
  match entries with
  | [] => exact printable_nil
  | [(k, v)] => exact hentry k v (printable_compactChars v)
  | (k, v) :: e :: rest =>
    exact printable_append.mpr ⟨printable_append.mpr ⟨hentry k v (printable_compactChars v),
      printable_of_all rfl⟩, printable_compactEntries (e :: rest)⟩

end

/-- A compact text has no control characters. -/
theorem printable_compact (v : Json) : Printable v.compact.toList := by
  rw [compact, String.toList_ofList]
  exact printable_compactChars v

end Json
end Catalogue
