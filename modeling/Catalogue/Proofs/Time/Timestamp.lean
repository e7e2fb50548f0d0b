import Catalogue.Proofs.Number.Digits
import Catalogue.Proofs.Text.Case
import Catalogue.Proofs.Time.Calendar

/-! Points in time and their texts. Each field of a text is a run of digits that ends at
a mark or is as long as it may be, so reading a field gives the number that was written;
the date that is read is that of the day, and the time of day is that of its second. A
point in time is therefore read back from its text (`parse?_text`), a leap second among
them. -/
namespace Catalogue.Timestamp

open Number Text

/-- A point in time that there is: it lies in the years that have points in time, and its
nanoseconds go on beyond a thousand million in the last second of a minute only. -/
structure Valid (t : Timestamp) : Prop where
  years : t.isWithinYears = true
  nanos : t.nanos < 2 * nanosPerSecond
  leap : nanosPerSecond ≤ t.nanos → t.seconds % 60 = 59

/-! ### Runs of digits -/

/-- A text of digits. -/
def Digits (ds : List Char) : Prop := ∀ c ∈ ds, '0' ≤ c ∧ c ≤ '9'

/-- A text that no digit begins. -/
def Ended (s : List Char) : Prop := ∀ c ∈ s.head?, ¬('0' ≤ c ∧ c ≤ '9')

theorem isSpace_of_digit {c : Char} (h : '0' ≤ c ∧ c ≤ '9') : isSpace c = false := by
  have hlow : 48 ≤ c.toNat := h.1
  have hhigh : c.toNat ≤ 57 := h.2
  simp only [isSpace, Bool.or_eq_false_iff, Bool.and_eq_false_iff, decide_eq_false_iff_not, beq_eq_false_iff_ne]
  omega

theorem digits_padded (width n : Nat) : Digits (padded width n) := by
  intro c hc
  rcases List.mem_append.mp hc with hc | hc
  · rw [List.eq_of_mem_replicate hc]
    exact ⟨Char.le_refl _, by decide⟩
  · exact isDigit_of_mem_decimalDigits hc

theorem digitsValue_padded (width n : Nat) : digitsValue (padded width n) = n := by
  show digitsValue (List.replicate _ '0' ++ decimalDigits n) = n
  rw [digitsValue_zeros_append, digitsValue_decimalDigits]

theorem padded_ne_nil (width n : Nat) : padded width n ≠ [] :=
  List.append_ne_nil_of_right_ne_nil _ (decimalDigits_ne_nil n)

theorem length_padded {width n : Nat} (hwidth : 0 < width) (h : n < 10 ^ width) :
    (padded width n).length = width := by
  have hle := (length_decimalDigits_le_iff hwidth).mpr h
  show (List.replicate (width - (decimalDigits n).length) '0' ++ decimalDigits n).length = width
  rw [List.length_append, List.length_replicate]
  omega

/-- Before a text that starts with digits there is no white space to trim. -/
theorem trimStart_digits {ds : List Char} (h : Digits ds) (hne : ds ≠ []) (rest : List Char) :
    trimStart (ds ++ rest) = ds ++ rest := by
  refine trimStart_of_first fun c hc => ?_
  cases ds with
  | nil => exact absurd rfl hne
  | cons d ds =>
    obtain rfl : d = c := Option.some.inj hc
    exact isSpace_of_digit (h d (List.mem_cons_self ..))

theorem takeWhile_digits {ds rest : List Char} (h : Digits ds) (hrest : Ended rest) :
    (ds ++ rest).takeWhile (fun c => '0' ≤ c && c ≤ '9') = ds := by
  induction ds with
  | nil =>
    cases rest with
    | nil => rfl
    | cons c rest => exact List.takeWhile_cons_of_neg (by simpa using hrest c rfl)
  | cons d ds ih =>
    obtain ⟨hd, hds⟩ := List.forall_mem_cons.mp h
    rw [List.cons_append, List.takeWhile_cons_of_pos (by simpa using hd), ih hds]

/-- Digits that end within the width, or at it. -/
theorem digitsUpTo_append {width : Nat} {ds rest : List Char} (h : Digits ds) (hne : ds ≠ [])
    (hlen : ds.length ≤ width) (hrest : Ended (rest.take (width - ds.length))) :
    digitsUpTo width (ds ++ rest) = some (digitsValue ds, rest) := by
  unfold digitsUpTo
  rw [List.take_append, List.take_of_length_le hlen, takeWhile_digits h hrest]
  simp only [List.isEmpty_eq_false_iff.mpr hne, Bool.false_eq_true, if_false, List.drop_left]

/-- Digits that are as many as may be read. -/
theorem digitsUpTo_padded {width n : Nat} (hwidth : 0 < width) (h : n < 10 ^ width) (rest : List Char) :
    digitsUpTo width (padded width n ++ rest) = some (n, rest) := by
  have hlen := length_padded hwidth h
  have hended : Ended (rest.take (width - (padded width n).length)) := by
    rw [hlen, Nat.sub_self, List.take_zero]
    exact fun _ hc => absurd hc (Option.not_mem_none _)
  rw [digitsUpTo_append (digits_padded width n) (padded_ne_nil width n) hlen.le hended, digitsValue_padded]

/-! ### Fields -/

theorem mark_cons {c : Char} (hc : isSpace c = false) (rest : List Char) : mark c (c :: rest) = some rest := by
  unfold mark
  rw [trimStart_of_first fun d hd => by rwa [← Option.some.inj hd]]
  simp only [beq_self_eq_true, if_true]

theorem readTwo_padded {n : Nat} (h : n < 100) (rest : List Char) :
    readTwo (padded 2 n ++ rest) = some (n, rest) := by
  unfold readTwo
  rw [trimStart_digits (digits_padded 2 n) (padded_ne_nil 2 n)]
  exact digitsUpTo_padded (by decide) h rest

/-- The year after its sign. -/
theorem digitsUpTo_year (n : Nat) (rest : List Char) :
    digitsUpTo (padded 4 n ++ '-' :: rest).length (padded 4 n ++ '-' :: rest) = some (n, '-' :: rest) := by
  have hended : Ended (('-' :: rest).take ((padded 4 n ++ '-' :: rest).length - (padded 4 n).length)) := by
    rw [List.length_append, Nat.add_sub_cancel_left, List.take_length]
    intro c hc
    obtain rfl : '-' = c := Option.some.inj hc
    decide
  rw [digitsUpTo_append (digits_padded 4 n) (padded_ne_nil 4 n) (by simp) hended, digitsValue_padded]

theorem readYear_yearText (year : Int) (rest : List Char) :
    readYear (yearText year ++ '-' :: rest) = some (year, '-' :: rest) := by
  unfold yearText
  by_cases hplain : (decide (0 ≤ year) && decide (year ≤ 9999)) = true
  · obtain ⟨hlow, hhigh⟩ : 0 ≤ year ∧ year ≤ 9999 := by simpa using hplain
    have hread := digitsUpTo_padded (show 0 < 4 by decide) (show year.toNat < 10 ^ 4 by omega) ('-' :: rest)
    have hdigit := digits_padded 4 year.toNat
    have hne := padded_ne_nil 4 year.toNat
    rw [if_pos hplain]
    unfold readYear
    rw [trimStart_digits hdigit hne]
    generalize padded 4 year.toNat = ds at hread hdigit hne
    cases ds with
    | nil => exact absurd rfl hne
    | cons d ds =>
      have hd := hdigit d (List.mem_cons_self ..)
      split
      · rename_i hminus
        cases hminus
        exact absurd hd.1 (by decide)
      · rename_i hplus
        cases hplus
        exact absurd hd.1 (by decide)
      · rw [hread, Option.map_some]
        simp only [Int.toNat_of_nonneg hlow]
  · rw [if_neg hplain]
    by_cases hneg : year < 0
    · rw [if_pos hneg, List.cons_append]
      show (digitsUpTo _ _).map _ = _
      rw [digitsUpTo_year, Option.map_some]
      simp only [Option.some.injEq, Prod.mk.injEq, and_true]
      omega
    · rw [if_neg hneg, List.cons_append]
      show (digitsUpTo _ _).map _ = _
      rw [digitsUpTo_year, Option.map_some]
      simp only [Option.some.injEq, Prod.mk.injEq, and_true]
      omega

/-! ### Fractions of a second -/

/-- A fraction that is written with one digit for each power of ten up to a power. -/
theorem readFraction_padded {width n : Nat} (hwidth : 0 < width) (hwidth' : width ≤ 9) (h : n < 10 ^ width)
    {rest : List Char} (hrest : Ended rest) :
    readFraction ('.' :: padded width n ++ rest) = some (n * Nat.pow 10 (9 - width), rest) := by
  have hlen := length_padded hwidth h
  have hempty : (padded width n).isEmpty = false := List.isEmpty_eq_false_iff.mpr (padded_ne_nil width n)
  simp only [readFraction, List.cons_append, takeWhile_digits (digits_padded width n) hrest, hempty,
    Bool.false_eq_true, if_false, List.take_of_length_le (hlen.le.trans hwidth'), digitsValue_padded, hlen,
    List.drop_left' hlen]

theorem readFraction_fractionText (nanos : Nat) :
    readFraction (fractionText nanos ++ ['Z']) = some (nanos % nanosPerSecond, ['Z']) := by
  have hend : Ended ['Z'] := by
    intro c hc
    obtain rfl : 'Z' = c := Option.some.inj hc
    decide
  have hlt : nanos % nanosPerSecond < 1000000000 := Nat.mod_lt _ (by decide)
  simp only [fractionText, beq_iff_eq]
  by_cases hzero : nanos % nanosPerSecond = 0
  · rw [if_pos hzero, hzero]
    rfl
  rw [if_neg hzero]
  by_cases hmilli : nanos % nanosPerSecond % 1000000 = 0
  · rw [if_pos hmilli, readFraction_padded (by decide) (by decide) (by omega) hend]
    show some ((nanos % nanosPerSecond) / 1000000 * 1000000, _) = _
    rw [Nat.div_mul_cancel (Nat.dvd_of_mod_eq_zero hmilli)]
  rw [if_neg hmilli]
  by_cases hmicro : nanos % nanosPerSecond % 1000 = 0
  · rw [if_pos hmicro, readFraction_padded (by decide) (by decide) (by omega) hend]
    show some ((nanos % nanosPerSecond) / 1000 * 1000, _) = _
    rw [Nat.div_mul_cancel (Nat.dvd_of_mod_eq_zero hmicro)]
  rw [if_neg hmicro, readFraction_padded (by decide) (by decide) (by omega) hend]
  show some ((nanos % nanosPerSecond) * 1, _) = _
  rw [Nat.mul_one]

/-! ### Whole texts -/

/-- A date of one of the years that have points in time. -/
structure IsDate (date : Int × Nat × Nat) : Prop where
  year : firstYear ≤ date.1 ∧ date.1 ≤ lastYear
  month : 1 ≤ date.2.1 ∧ date.2.1 ≤ 12
  day : 1 ≤ date.2.2 ∧ date.2.2 ≤ daysInMonth date.1 date.2.1

/-- The text of a date and a time of day in universal time. -/
def fieldsText (date : Int × Nat × Nat) (hour minute second nanos : Nat) : List Char :=
  yearText date.1 ++ '-' :: (padded 2 date.2.1 ++ '-' :: (padded 2 date.2.2 ++ 'T' :: (padded 2 hour ++
    ':' :: (padded 2 minute ++ ':' :: (padded 2 second ++ (fractionText nanos ++ ['Z']))))))

/-- What the fields of a text make, if they are a date and a time of day. -/
theorem parse?_fieldsText {date : Int × Nat × Nat} {hour minute second nanos : Nat} (hdate : IsDate date)
    (hhour : hour < 24) (hminute : minute < 60) (hsecond : second ≤ 60) {t : Timestamp}
    (hyears : t.isWithinYears = true) (hseconds : t.seconds = dayOf date.1 date.2.1 date.2.2 * 86400 +
      (hour * 3600 + minute * 60 + (if (second == 60) = true then 59 else second) : Nat) - 0)
    (hnanos : t.nanos = nanos % nanosPerSecond + (if (second == 60) = true then nanosPerSecond else 0)) :
    parse? (String.ofList (fieldsText date hour minute second nanos)) = some t := by
  obtain ⟨year, month, day⟩ := date
  obtain ⟨⟨hyear, hyear'⟩, ⟨hmonth, hmonth'⟩, ⟨hday, hday'⟩⟩ := hdate
  have hdash : isSpace '-' = false := by decide
  have hcolon : isSpace ':' = false := by decide
  have hshort : daysInMonth year month ≤ 31 := by
    unfold daysInMonth
    split <;> split <;> omega
  have hmonthRead := readTwo_padded (show month < 100 by simp only at hmonth'; omega)
  have hdayRead := readTwo_padded (show day < 100 by simp only at hday'; omega)
  have hoffset : readOffset ['Z'] = some (0, []) := by decide
  have hvalid : ((trimStart []).isEmpty && decide (1 ≤ month) && decide (month ≤ 12) && decide (1 ≤ day) &&
      decide (day ≤ daysInMonth year month) && decide (hour < 24) && decide (minute < 60) &&
      decide (second ≤ 60) && decide (firstYear ≤ year) && decide (year ≤ lastYear)) = true := by
    simp only [trimStart, List.dropWhile_nil, List.isEmpty_nil, hmonth, hmonth', hday, hday', hhour, hminute,
      hsecond, hyear, hyear', decide_true, Bool.and_self]
  obtain ⟨seconds, ns⟩ := t
  obtain rfl : seconds = _ := hseconds
  obtain rfl : ns = _ := hnanos
  simp only [parse?, String.toList_ofList, fieldsText, bind, Option.bind, readYear_yearText, mark_cons hdash,
    hmonthRead, hdayRead, if_true, readTwo_padded (show hour < 100 by omega), mark_cons hcolon,
    readTwo_padded (show minute < 100 by omega), readTwo_padded (show second < 100 by omega),
    readFraction_fractionText, hoffset, hvalid, Bool.not_true, Bool.false_eq_true, if_false, hyears]
  rfl

/-- The date of a point in time. -/
theorem Valid.date {t : Timestamp} (h : t.Valid) : IsDate (dateOf (t.seconds.fdiv 86400)) := by
  have hyears := h.years
  simp only [isWithinYears, Bool.and_eq_true, decide_eq_true_eq] at hyears
  have hday : dayOf firstYear 1 1 ≤ t.seconds.fdiv 86400 ∧ t.seconds.fdiv 86400 < dayOf (lastYear + 1) 1 1 := by
    rw [Int.fdiv_eq_ediv_of_nonneg _ (by decide)]
    omega
  obtain ⟨hmonth, hmonth', hfirst, hlast⟩ := date_dateOf (t.seconds.fdiv 86400)
  exact ⟨year_dateOf hday.1 hday.2, ⟨hmonth, hmonth'⟩, ⟨hfirst, hlast⟩⟩

/-- A point in time is read back from its text. -/
theorem parse?_text {t : Timestamp} (h : t.Valid) : parse? (t.text "Z") = some t := by
  have hdays := dayOf_dateOf (t.seconds.fdiv 86400)
  obtain ⟨inDay, hinDay, hlt⟩ :
      ∃ inDay : Nat, t.seconds = t.seconds.fdiv 86400 * 86400 + inDay ∧ inDay < 86400 := by
    rw [Int.fdiv_eq_ediv_of_nonneg _ (by decide)]
    exact ⟨(t.seconds % 86400).toNat, by omega, by omega⟩
  have htoNat : (t.seconds - t.seconds.fdiv 86400 * 86400).toNat = inDay := by omega
  have htext : t.text "Z" = String.ofList (fieldsText (dateOf (t.seconds.fdiv 86400)) (inDay / 3600)
      (inDay / 60 % 60) (inDay % 60 + (if t.nanos < nanosPerSecond then 0 else 1)) t.nanos) := by
    simp only [text, htoNat, fieldsText, List.append_assoc, List.cons_append, List.nil_append]
    rfl
  rw [htext]
  by_cases hleap : t.nanos < nanosPerSecond
  · have hsecond : (inDay % 60 + 0 == 60) = false := beq_eq_false_iff_ne.mpr (by omega)
    rw [if_pos hleap]
    refine parse?_fieldsText h.date (by omega) (by omega) (by omega) h.years ?_ ?_
    · rw [hdays, hsecond]
      simp only [Bool.false_eq_true, if_false]
      omega
    · rw [hsecond, Nat.mod_eq_of_lt hleap]
      rfl
  · -- The sixtieth second of a minute is the fifty-ninth, and its nanoseconds go on.
    have hover : 1000000000 ≤ t.nanos := Nat.le_of_not_lt hleap
    have hbound : t.nanos < 2 * 1000000000 := h.nanos
    have hlast := h.leap hover
    have hsecond : (inDay % 60 + 1 == 60) = true := beq_iff_eq.mpr (by omega)
    rw [if_neg hleap]
    refine parse?_fieldsText h.date (by omega) (by omega) (by omega) h.years ?_ ?_
    · rw [hdays, hsecond]
      simp only [if_true]
      omega
    · rw [hsecond]
      show t.nanos = t.nanos % 1000000000 + 1000000000
      omega

end Catalogue.Timestamp
