import Catalogue.Proofs.Index.Ranking
import Catalogue.Proofs.Number.Digits
import Catalogue.Question.Phrase

/-! Decades and centuries. Division toward zero puts a year into the block of years that it
lies in if it is not below zero or is the first of its block, and into the next block
otherwise (`tdiv_cases`). So the facets are right about the years of our era, where their
centuries are those of the phrases too, and about one year in ten, or in a hundred, before
them; all other years are counted a block too late, and nineteen years share the decade
`0s` (`countsYear_iff`, `facets?_antiquities`). -/
namespace Catalogue.Index

open Number (int64)

/-- Division toward zero gives the block of a number from zero on and of a multiple, and the next block
for any other. -/
theorem tdiv_cases (m : Int) {unit : Int} (h : 0 < unit) :
    (0 ≤ m ∨ unit ∣ m) ∧ Int.tdiv m unit = m / unit ∨
      ¬(0 ≤ m ∨ unit ∣ m) ∧ Int.tdiv m unit = m / unit + 1 := by
  rw [Int.tdiv_eq_ediv, Int.sign_eq_one_of_pos h]
  by_cases hm : 0 ≤ m ∨ unit ∣ m
  · exact .inl ⟨hm, by rw [if_pos hm, Int.add_zero]⟩
  · exact .inr ⟨hm, by rw [if_neg hm]⟩

namespace Facet

theorem centuryText_injective : Function.Injective centuryText :=
  fun _ _ h => Number.intText_injective (String.ofList_injective h)

theorem decadeText_injective : Function.Injective decadeText := by
  intro c d h
  have hlist := congrArg String.toList h
  simp only [decadeText, String.toList_append, String.toList_ofList] at hlist
  exact Number.intText_injective (List.append_cancel_right hlist)

/-- The decade and the century in which the facets count a year: whatever index has it, they are in the
lists that are not cut off. -/
structure CountsYear (y d c : Int) : Prop where
  decade : decade.label (.int y) = .text (decadeText d)
  century : century.label (.int y) = .text (centuryText c)
  listed : ∀ {ix : Index} {keys : List String} {limit : Nat} {counts : FacetCounts}, Declared ix →
    ix.facets? keys limit = some counts → ∀ r ∈ ix.records, ∀ k ∈ keys, r.key = .text k →
    ∀ row ∈ ix.imprints, row.cell "record_id" = .int r.id → row.cell "date_start" = .int y →
      (counts.decade.length < limit → ∃ b ∈ counts.decade, b.value = decadeText d) ∧
        (counts.century.length < limit → ∃ b ∈ counts.century, b.value = centuryText c)

theorem countsYear {y : Int} (h : int64.low < y) : CountsYear y (Int.tdiv y 10 * 10) (Int.tdiv (y - 1) 100 + 1) where
  decade := label_decade y
  century := label_century (by omega)
  listed hix hcounts r hr k hk hkey row hrow hid hyear := by
    have hdecade : Facet.decade.Has _ r (decadeText (Int.tdiv y 10 * 10)) :=
      ⟨row, hrow, hid, congrArg Facet.decade.value? hyear⟩
    have hcentury : Facet.century.Has _ r (centuryText (Int.tdiv (y - 1) 100 + 1)) :=
      ⟨row, hrow, hid, (congrArg Facet.century.value? hyear).trans (congrArg some (if_neg (by omega)))⟩
    exact ⟨mem_buckets hix hcounts hr hk hkey hdecade, mem_buckets hix hcounts hr hk hkey hcentury⟩

/-- The decade and the century of a year are not left open. -/
theorem CountsYear.eq {y d c : Int} (h : CountsYear y d c) (hy : int64.low < y) :
    d = Int.tdiv y 10 * 10 ∧ c = Int.tdiv (y - 1) 100 + 1 := by
  have hd := h.decade.symm.trans (countsYear hy).decade
  have hc := h.century.symm.trans (countsYear hy).century
  exact ⟨decadeText_injective (Cell.text.inj hd), centuryText_injective (Cell.text.inj hc)⟩

/-- The centuries of the phrases are the hundred years up to a multiple of a hundred. -/
theorem centuryBounds_eq_some {n first last : Int} :
    Question.centuryBounds n = some (first, last) ↔
      (1 ≤ n ∧ n ≤ 21) ∧ first = (n - 1) * 100 + 1 ∧ last = n * 100 := by
  unfold Question.centuryBounds
  by_cases hn : 1 ≤ n ∧ n ≤ 21
  · simp [hn, eq_comm]
  · simp [hn]

/-- A year is counted in one decade and in one century. It lies in this decade exactly if it is not below
zero or begins a decade, and in this century exactly if it is of our era or begins a century; the
centuries of our era are those of the phrases. Two years that are counted together lie in the same ten,
or hundred, years exactly if both lie where they are counted, or neither does. -/
theorem countsYear_iff {y : Int} (hy : int64.low < y) :
    ∃ d c, CountsYear y d c ∧ 10 ∣ d ∧ (d ≤ y ∧ y ≤ d + 9 ↔ 0 ≤ y ∨ 10 ∣ y) ∧
      ((c - 1) * 100 + 1 ≤ y ∧ y ≤ c * 100 ↔ 1 ≤ y ∨ 100 ∣ y - 1) ∧
      (1 ≤ y → ∀ n first last, Question.centuryBounds n = some (first, last) → (c = n ↔ first ≤ y ∧ y ≤ last)) ∧
      ∀ z d' c', int64.low < z → CountsYear z d' c' →
        (d = d' → (y / 10 = z / 10 ↔ (0 ≤ y ∨ 10 ∣ y ↔ 0 ≤ z ∨ 10 ∣ z))) ∧
        (c = c' → ((y - 1) / 100 = (z - 1) / 100 ↔ (1 ≤ y ∨ 100 ∣ y - 1 ↔ 1 ≤ z ∨ 100 ∣ z - 1))) := by
  have hten (m : Int) := tdiv_cases m (show (0 : Int) < 10 by decide)
  have hhundred (m : Int) := tdiv_cases m (show (0 : Int) < 100 by decide)
  have hd := hten y
  have hc := hhundred (y - 1)
  refine ⟨_, _, countsYear hy, Int.dvd_mul_left _ _, by omega, by omega, ?phrases, ?together⟩
  case phrases =>
    intro hera n first last hbounds
    obtain ⟨-, rfl, rfl⟩ := centuryBounds_eq_some.mp hbounds
    omega
  case together =>
    intro z d' c' hz hcounts
    obtain ⟨rfl, rfl⟩ := hcounts.eq hz
    have hd' := hten z
    have hc' := hhundred (z - 1)
    constructor
    · intro heq
      omega
    · intro heq
      omega

/-- The last year of a century begins a decade. -/
theorem countsYear_iff_1600 : ∃ d c, CountsYear 1600 d c ∧ d = 1600 ∧ c = 16 ∧
    Question.centuryBounds c = some (1501, 1600) := by
  obtain ⟨d, c, hcounts, hten, hd, hc, -⟩ := countsYear_iff (y := 1600) (by decide)
  have hin := hd.mpr (.inl (by decide))
  have hera := hc.mpr (.inl (by decide))
  obtain rfl : d = 1600 := by omega
  obtain rfl : c = 16 := by omega
  exact ⟨1600, 16, hcounts, rfl, rfl, by decide⟩

end Facet

/-- Two books, one from the fifth year before the year zero and one from the fifth year after it. -/
def antiquities : Index where
  records := [⟨1, .text "a"⟩, ⟨2, .text "b"⟩]
  imprints := [
    ⟨1, [("record_id", .int 1), ("occurrence", .int 0), ("date_start", .int (-5)), ("date_end", .int (-5))]⟩,
    ⟨2, [("record_id", .int 2), ("occurrence", .int 0), ("date_start", .int 5), ("date_end", .int 5)]⟩]
  languages := []
  titles := []
  subjects := []
  agents := []
  lost := []

open Facet in
/-- Years on both sides of the year zero share a decade and a century, and the year before it lies in neither. -/
theorem facets?_antiquities :
    antiquities.facets? ["a", "b"] 10 = some ⟨[], [], [], [⟨"0s", 2⟩], [⟨"1", 2⟩]⟩ ∧
      (¬∃ d, decade.label (.int (-5)) = .text (decadeText d) ∧ 10 ∣ d ∧ d ≤ -5 ∧ -5 ≤ d + 9) ∧
      (¬∃ c, century.label (.int (-5)) = .text (centuryText c) ∧ (c - 1) * 100 + 1 ≤ -5 ∧ -5 ≤ c * 100) ∧
      (-5 : Int) / 10 ≠ 5 / 10 := by
  refine ⟨by decide +kernel, ?_, ?_, by decide⟩
  · rintro ⟨d, hd, hten, hlow, hhigh⟩
    obtain rfl : d = -10 := by omega
    exact absurd hd (by decide)
  · rintro ⟨c, hc, hlow, hhigh⟩
    obtain rfl : c = 0 := by omega
    exact absurd hc (by decide)

end Catalogue.Index
