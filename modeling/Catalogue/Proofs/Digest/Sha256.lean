import Catalogue.Digest.Sha256
import Catalogue.Proofs.Text.Utf8

/-! Digests as text. Hexadecimal digits lose nothing, so two texts have one digest exactly if they are
the same or their bytes collide (`sha256Hex_eq_iff`). -/
namespace Catalogue.Digest

open Text.Utf8 (encode)

/-- Two messages with one digest. -/
def Collide (m m' : List UInt8) : Prop := m ≠ m' ∧ digest m = digest m'

/-! ### Hexadecimal digits -/

/-- Where each part is written in a width of its own, the parts are had back from the whole. -/
theorem flatMap_injective {α β : Type} (f : α → List β) (width : Nat) (hwidth : ∀ a, (f a).length = width)
    (hf : ∀ a b, f a = f b → a = b) {as bs : List α} (h : as.flatMap f = bs.flatMap f)
    (hlength : as.length = bs.length) : as = bs := by
  induction as generalizing bs with
  | nil => exact (List.eq_nil_of_length_eq_zero hlength.symm).symm
  | cons a as ih =>
    cases bs with
    | nil => cases hlength
    | cons b bs =>
      rw [List.flatMap_cons, List.flatMap_cons] at h
      obtain ⟨hfirst, hrest⟩ := List.append_inj h ((hwidth a).trans (hwidth b).symm)
      rw [hf a b hfirst, ih hrest (Nat.succ.inj hlength)]

theorem digitChar_injective : ∀ m < 16, ∀ n < 16, Nat.digitChar m = Nat.digitChar n → m = n := by decide

theorem byte_of_digits (b c : UInt8)
    (h : [Nat.digitChar (b.toNat / 16), Nat.digitChar (b.toNat % 16)] =
      [Nat.digitChar (c.toNat / 16), Nat.digitChar (c.toNat % 16)]) : b = c := by
  have hb := b.toNat_lt
  have hc := c.toNat_lt
  simp only [List.cons.injEq, and_true] at h
  have hhigh := digitChar_injective _ (by omega) _ (by omega) h.1
  have hlow := digitChar_injective _ (by omega) _ (by omega) h.2
  refine UInt8.toNat_inj.mp ?_
  omega

theorem wordHex_injective (w v : UInt32) (h : wordHex w = wordHex v) : w = v := by
  have hbytes : bigEndian 4 w.toNat = bigEndian 4 v.toNat :=
    flatMap_injective (fun b : UInt8 => [Nat.digitChar (b.toNat / 16), Nat.digitChar (b.toNat % 16)]) 2
      (fun _ => rfl) byte_of_digits h rfl
  have hparts (i : Nat) (hi : i < 4) : (w.toNat >>> (8 * (3 - i))) % 256 = (v.toNat >>> (8 * (3 - i))) % 256 := by
    have hbyte := congrArg (fun bs => (bs[i]?.map UInt8.toNat)) hbytes
    simpa [bigEndian, hi] using hbyte
  have h0 := hparts 0 (by decide)
  have h1 := hparts 1 (by decide)
  have h2 := hparts 2 (by decide)
  have h3 := hparts 3 (by decide)
  simp only [Nat.shiftRight_eq_div_pow] at h0 h1 h2 h3
  have hw := w.toNat_lt
  have hv := v.toNat_lt
  refine UInt32.toNat_inj.mp ?_
  omega

/-! ### Digests -/

theorem sha256HexOf_eq_iff {m m' : List UInt8} : sha256HexOf m = sha256HexOf m' ↔ digest m = digest m' := by
  refine ⟨fun h => ?_, fun h => by rw [sha256HexOf, sha256HexOf, h]⟩
  simp only [sha256HexOf] at h
  generalize digest m = s at h ⊢
  generalize digest m' = t at h ⊢
  have hdigits := String.ofList_injective h
  have hwords := flatMap_injective wordHex 8 (fun _ => rfl) wordHex_injective hdigits rfl
  cases s
  cases t
  simpa using hwords

/-- Two texts have one digest exactly if they are the same or their bytes collide. -/
theorem sha256Hex_eq_iff {s t : String} : sha256Hex s = sha256Hex t ↔ s = t ∨ Collide (encode s) (encode t) := by
  rw [sha256Hex, sha256Hex, sha256HexOf_eq_iff]
  constructor
  · intro h
    by_cases hst : s = t
    · exact .inl hst
    · refine .inr ⟨fun hbytes => hst ?_, h⟩
      rw [← Option.some.injEq, ← Text.Utf8.text?_encode, ← Text.Utf8.text?_encode, hbytes]
  · rintro (rfl | ⟨-, h⟩)
    · rfl
    · exact h

end Catalogue.Digest
