import Catalogue.Proofs.Json.Reading
import Mathlib.Data.List.TakeWhile

/-! Stretches of text that tokens take. A token is read from a stretch at the start of a text, and would
be read from it just as well if less of the rest followed (`stretch_of_scan`). Quotes and curly braces
stand in such a stretch only if the token is a string or one of the braces. -/
namespace Catalogue.Json

/-! ### What a reader takes -/

/-- A token at which scanning stops. -/
def Token.Faulty : Token → Prop
  | .broken _ | .brokenString _ | .stray => True
  | _ => False

/-- A character that neither a string nor an object begins or ends with. -/
def Bland (c : Char) : Prop := c ≠ '"' ∧ c ≠ '\x7b' ∧ c ≠ '\x7d'

instance (c : Char) : Decidable (Bland c) := inferInstanceAs (Decidable (_ ∧ _))

/-- A reader takes a stretch of bland characters from the start of a text and leaves the rest, and would take
the same stretch if only a part of the rest followed. -/
def Takes (reads : List Char → List Char → Prop) (s left : List Char) : Prop :=
  ∃ w, s = w ++ left ∧ (∀ c ∈ w, Bland c) ∧ ∀ r, r <+: left → reads (w ++ r) r

namespace Takes

variable {reads reads' : List Char → List Char → Prop} {s m left : List Char}

theorem nothing (h : ∀ r, r <+: s → reads r r) : Takes reads s s :=
  ⟨[], rfl, List.forall_mem_nil _, h⟩

theorem cons {c : Char} (hc : Bland c) (h : Takes reads s left) (hreads : ∀ u r, reads u r → reads' (c :: u) r) :
    Takes reads' (c :: s) left := by
  obtain ⟨w, rfl, hw, h⟩ := h
  exact ⟨c :: w, rfl, List.forall_mem_cons.mpr ⟨hc, hw⟩, fun r hr => hreads _ _ (h r hr)⟩

/-- One reader goes on where another stops. -/
theorem trans {both : List Char → List Char → Prop} (h : Takes reads s m) (h' : Takes reads' m left)
    (hreads : ∀ u v r, reads u v → reads' v r → both u r) : Takes both s left := by
  obtain ⟨w, rfl, hw, h⟩ := h
  obtain ⟨w', rfl, hw', h'⟩ := h'
  refine ⟨w ++ w', (List.append_assoc ..).symm, List.forall_mem_append.mpr ⟨hw, hw'⟩, fun r hr => ?_⟩
  rw [List.append_assoc]
  exact hreads _ _ _ (h _ ((List.prefix_append_right_inj w').mpr hr)) (h' r hr)

theorem imp (h : Takes reads s left) (hreads : ∀ u r, reads u r → reads' u r) : Takes reads' s left := by
  obtain ⟨w, hs, hw, h⟩ := h
  exact ⟨w, hs, hw, fun r hr => hreads _ _ (h r hr)⟩

end Takes

/-! ### Numerals -/

theorem bland_digit {c : Char} (h : isDigit c = true) : Bland c := by
  refine ⟨?_, ?_, ?_⟩ <;> rintro rfl <;> exact absurd h (by decide)

theorem takes_digits (s : List Char) :
    Takes (fun u r => takeDigits u = (s.takeWhile isDigit, r)) s (s.dropWhile isDigit) := by
  refine ⟨s.takeWhile isDigit, List.takeWhile_append_dropWhile.symm,
    fun c hc => bland_digit (List.mem_takeWhile_imp hc), fun r hr => ?_⟩
  refine takeDigits_append (fun c hc => isDigit_iff.mp (List.mem_takeWhile_imp hc)) fun c hc => ?_
  obtain ⟨more, hmore⟩ := hr
  have hhead : c ∈ (s.dropWhile isDigit).head? := by
    rw [← hmore, List.head?_append, Option.mem_def.mp hc]
    rfl
  have := List.head?_dropWhile_not isDigit s
  rw [Option.mem_def.mp hhead] at this
  exact this

/-- The digits that are wanted, and the same if less follows them. -/
theorem takes_of_digits {α : Type} {u left : List Char} {f : Fault} {a b : α}
    (h : (if (u.takeWhile isDigit).isEmpty then Except.error f else .ok (a, u.dropWhile isDigit)) = .ok (b, left)) :
    a = b ∧ (u.takeWhile isDigit).isEmpty = false ∧
      Takes (fun v r => takeDigits v = (u.takeWhile isDigit, r)) u left := by
  split at h
  · cases h
  · rename_i hne
    cases h
    exact ⟨rfl, Bool.eq_false_iff.mpr hne, takes_digits u⟩

/-- A digit after the letter of an exponent is no sign. -/
theorem scanExponent_digits {c : Char} (hc : c = 'e' ∨ c = 'E') {u ds r : List Char}
    (h : takeDigits u = (ds, r)) (hne : ds.isEmpty = false) :
    scanExponent (c :: u) = .ok (some (Number.digitsValue ds : Int), r) := by
  cases u with
  | nil =>
    cases h
    cases hne
  | cons d u =>
    have hdigit : isDigit d = true := by
      by_contra hd
      rw [takeDigits, List.takeWhile_cons_of_neg hd] at h
      cases h
      cases hne
    have hplus : d ≠ '+' := by rintro rfl; cases hdigit
    have hminus : d ≠ '-' := by rintro rfl; cases hdigit
    simp [scanExponent, hc, h, hne, hplus, hminus]

theorem takes_scanExponent {s left : List Char} {e : Option Int} (h : scanExponent s = .ok (e, left)) :
    Takes (fun u r => scanExponent u = .ok (e, r)) s left := by
  cases s with
  | nil =>
    cases h
    refine .nothing fun r hr => ?_
    rw [List.prefix_nil.mp hr]
    rfl
  | cons c rest =>
    simp only [scanExponent, takeDigits] at h
    split at h
    · rename_i hc
      rw [Bool.or_eq_true, decide_eq_true_eq, decide_eq_true_eq] at hc
      have hbland : Bland c := by rcases hc with rfl | rfl <;> decide
      suffices htakes : Takes (fun u r => scanExponent (c :: u) = .ok (e, r)) rest left from
        htakes.cons hbland fun _ _ => id
      split at h
      · obtain ⟨rfl, hne, htakes⟩ := takes_of_digits h
        exact .cons (by decide) htakes fun u r hu => by simp [scanExponent, hc, hu, hne]
      · obtain ⟨rfl, hne, htakes⟩ := takes_of_digits h
        exact .cons (by decide) htakes fun u r hu => by simp [scanExponent, hc, hu, hne]
      · obtain ⟨rfl, hne, htakes⟩ := takes_of_digits h
        exact htakes.imp fun u r hu => scanExponent_digits hc hu hne
    · rename_i hc
      cases h
      refine .nothing fun r hr => ?_
      cases r with
      | nil => rfl
      | cons d r =>
        obtain ⟨rfl, -⟩ := List.cons_prefix_cons.mp hr
        simp only [scanExponent, if_neg hc]

theorem takes_scanFraction {s left : List Char} {f : Option (List Char)} (h : scanFraction s = .ok (f, left)) :
    Takes (fun u r => scanFraction u = .ok (f, r)) s left := by
  simp only [scanFraction, takeDigits] at h
  split at h
  · obtain ⟨rfl, hne, htakes⟩ := takes_of_digits h
    exact .cons (by decide) htakes fun u r hu => by simp [scanFraction, hu, hne]
  · rename_i hpoint
    cases h
    refine .nothing fun r hr => ?_
    cases r with
    | nil => rfl
    | cons d r =>
      obtain ⟨more, rfl⟩ := hr
      have hd : d ≠ '.' := by
        rintro rfl
        exact hpoint _ rfl
      simp [scanFraction, hd]

theorem takes_scanNumeral {negative : Bool} {s left : List Char} {n : Number.Numeral}
    (h : scanNumeral negative s = .ok (n, left)) : Takes (fun u r => scanNumeral negative u = .ok (n, r)) s left := by
  unfold scanNumeral at h
  simp only [takeDigits] at h
  split at h
  · cases h
  · cases h
  · rename_i hnil hzero
    obtain ⟨⟨f, r₁⟩, hf, h⟩ := bind_eq_ok.mp h
    obtain ⟨⟨e, r₂⟩, he, h⟩ := bind_eq_ok.mp h
    cases h
    have hrest : Takes (fun u r => ∃ v, scanFraction u = .ok (f, v) ∧ scanExponent v = .ok (e, r)) _ r₂ :=
      (takes_scanFraction hf).trans (takes_scanExponent he) fun u v r hu hv => ⟨v, hu, hv⟩
    refine (takes_digits s).trans hrest ?_
    rintro u v r hu ⟨v', hv, hv'⟩
    simp only [scanNumeral, hu]
    exact bind_eq_ok.mpr ⟨_, hv, bind_eq_ok.mpr ⟨_, hv', rfl⟩⟩

theorem takes_numberToken {negative : Bool} {s left : List Char} {t : Token} (h : numberToken negative s = (t, left))
    (ht : ¬t.Faulty) : (∃ v, t = .number v) ∧ Takes (fun u r => numberToken negative u = (t, r)) s left := by
  unfold numberToken at h
  split at h
  · rename_i n rest hscan
    cases h
    exact ⟨⟨_, rfl⟩, (takes_scanNumeral hscan).imp fun u r hu => by rw [numberToken, hu]⟩
  · cases h
    exact absurd trivial ht

/-! ### Literals -/

theorem takes_literalToken {t t' : Token} {es : List Char} (hes : ∀ c ∈ es, Bland c) {s left : List Char}
    (h : literalToken t es s = (t', left)) (ht : ¬t'.Faulty) :
    t' = t ∧ Takes (fun u r => literalToken t es u = (t', r)) s left := by
  induction es generalizing s with
  | nil =>
    cases h
    exact ⟨rfl, .nothing fun r _ => rfl⟩
  | cons e es ih =>
    obtain ⟨he, hrest⟩ := List.forall_mem_cons.mp hes
    cases s with
    | nil =>
      cases h
      exact absurd trivial ht
    | cons c rest =>
      rw [literalToken] at h
      split at h
      · rename_i heq
        subst heq
        obtain ⟨rfl, htakes⟩ := ih hrest h
        exact ⟨rfl, .cons he htakes fun u r hu => by rw [literalToken, if_pos rfl, hu]⟩
      · cases h
        exact absurd trivial ht

/-! ### Strings -/

/-- What follows the quote that a string begins with, up to the one that it ends with. -/
inductive Strung : List Char → Prop where
  | close : Strung ['"']
  | char {c : Char} {w : List Char} (hquote : c ≠ '"') (hslash : c ≠ '\\') (h : Strung w) : Strung (c :: w)
  | escape {c : Char} {w : List Char} (h : Strung w) : Strung ('\\' :: c :: w)

theorem codeEnd_ne_closed (rest : List Char) : codeEnd rest ≠ .closed := by
  unfold codeEnd
  split <;> exact nofun

/-- A digit stands for itself in a string. -/
theorem Strung.digits {w : List Char} (h : Strung w) {ds : List Char} {v n : Nat}
    (hds : Number.extendedBy? 16 v ds = some n) : Strung (ds ++ w) := by
  induction ds generalizing v with
  | nil => exact h
  | cons d ds ih =>
    obtain ⟨value, hvalue, hrest⟩ := Option.bind_eq_some_iff.mp hds
    refine .char ?_ ?_ (ih hrest) <;> rintro rfl <;> cases hvalue

/-- A string that ends takes its text and nothing of what follows. -/
theorem takes_stringUnits {s left : List Char} {us : List StringUnit} (h : stringUnits s = (us, .closed, left)) :
    ∃ w, s = w ++ left ∧ Strung w ∧ ∀ r, stringUnits (w ++ r) = (us, .closed, r) := by
  fun_induction stringUnits s generalizing us with
  | case1 | case2 | case7 | case9 => cases h
  | case4 | case5 => exact absurd (congrArg (·.2.1) h) (codeEnd_ne_closed _)
  | case3 a b c d rest n hhex us' ending r hrest ih =>
    cases h
    obtain ⟨w, rfl, hw, htakes⟩ := ih hrest
    refine ⟨'\\' :: 'u' :: a :: b :: c :: d :: w, rfl, .escape (hw.digits hhex), fun r => ?_⟩
    simp only [List.cons_append, stringUnits, hhex, htakes]
  | case6 c rest _ _ x hescape us' ending r hrest ih =>
    cases h
    obtain ⟨w, rfl, hw, htakes⟩ := ih hrest
    refine ⟨'\\' :: c :: w, rfl, .escape hw, fun r => ?_⟩
    have hu : c ≠ 'u' := by
      rintro rfl
      cases hescape
    simp [stringUnits, hu, hescape, htakes]
  | case8 rest =>
    cases h
    exact ⟨['"'], rfl, .close, fun r => by simp [stringUnits]⟩
  | case10 c rest hlast _ _ hpair hquote hcontrol us' ending r hrest ih =>
    cases h
    have hslash : c ≠ '\\' := by
      rintro rfl
      cases rest with
      | nil => exact hlast rfl rfl
      | cons d rest => exact hpair d rest rfl rfl
    obtain ⟨w, rfl, hw, htakes⟩ := ih hrest
    exact ⟨c :: w, rfl, .char hquote hslash hw, fun r => by simp [stringUnits, hslash, hquote, hcontrol, htakes]⟩

theorem takes_stringToken {s left : List Char} {t : Token} (h : stringToken s = (t, left)) (ht : ¬t.Faulty) :
    ∃ w, s = w ++ left ∧ Strung w ∧ (∃ content, t = .string content) ∧ ∀ r, stringToken (w ++ r) = (t, r) := by
  unfold stringToken at h
  split at h
  rename_i units ending rest hunits
  split at h
  · rename_i hclosed
    cases h
    obtain ⟨w, rfl, hw, htakes⟩ := takes_stringUnits (hclosed ▸ hunits)
    refine ⟨w, rfl, hw, ⟨_, rfl⟩, fun r => ?_⟩
    rw [stringToken, htakes]
    simp only [hclosed, if_true]
  · cases h
    exact absurd trivial ht

/-! ### Tokens -/

/-- The stretch of text that a token is read from. -/
inductive Stretch : Token → List Char → Prop where
  | openObject : Stretch .openObject ['\x7b']
  | closeObject : Stretch .closeObject ['\x7d']
  | string (content : StringContent) {w : List Char} (h : Strung w) : Stretch (.string content) ('"' :: w)
  | bland {t : Token} {w : List Char} (hopen : t ≠ .openObject) (hclose : t ≠ .closeObject)
      (h : ∀ c ∈ w, Bland c) : Stretch t w

/-- How the scanner goes on after a first character. -/
inductive Scanner : Char → (List Char → Token × List Char) → Prop where
  | openObject : Scanner '\x7b' fun rest => (.openObject, rest)
  | closeObject : Scanner '\x7d' fun rest => (.closeObject, rest)
  | mark {c : Char} {t : Token} (hopen : t ≠ .openObject) (hclose : t ≠ .closeObject) (hc : Bland c) :
      Scanner c fun rest => (t, rest)
  | string : Scanner '"' stringToken
  | negative : Scanner '-' (numberToken true)
  | digit {c : Char} (h : isDigit c = true) : Scanner c fun rest => numberToken false (c :: rest)
  | literal {c : Char} {t : Token} {es : List Char} (hopen : t ≠ .openObject) (hclose : t ≠ .closeObject)
      (h : ∀ d ∈ c :: es, Bland d) : Scanner c (literalToken t es)
  | stray (c : Char) : Scanner c fun _ => (.stray, [])

/-- Every first character is one of these. -/
theorem scanner_scan (c : Char) : Scanner c (scan c) := by
  by_cases hopenList : c = '['
  · subst hopenList
    exact .mark (t := .openList) nofun nofun (by decide)
  by_cases hcloseList : c = ']'
  · subst hcloseList
    exact .mark (t := .closeList) nofun nofun (by decide)
  by_cases hopenObject : c = '\x7b'
  · subst hopenObject
    exact .openObject
  by_cases hcloseObject : c = '\x7d'
  · subst hcloseObject
    exact .closeObject
  by_cases hcomma : c = ','
  · subst hcomma
    exact .mark (t := .comma) nofun nofun (by decide)
  by_cases hcolon : c = ':'
  · subst hcolon
    exact .mark (t := .colon) nofun nofun (by decide)
  by_cases hquote : c = '"'
  · subst hquote
    exact .string
  by_cases hminus : c = '-'
  · subst hminus
    exact .negative
  by_cases hdigit : isDigit c = true
  · have hscan : scan c = fun rest => numberToken false (c :: rest) := funext (scan_digit hdigit)
    rw [hscan]
    exact .digit hdigit
  by_cases hn : c = 'n'
  · subst hn
    exact .literal (t := .null) nofun nofun (by simp [Bland])
  by_cases ht : c = 't'
  · subst ht
    exact .literal (t := .bool true) nofun nofun (by simp [Bland])
  by_cases hf : c = 'f'
  · subst hf
    exact .literal (t := .bool false) nofun nofun (by simp [Bland])
  have hscan : scan c = fun _ => (.stray, []) := by
    funext rest
    simp [scan, *]
  rw [hscan]
  exact .stray c

/-- A token is read from a stretch of the text, and would be read from it if less of the rest followed. -/
theorem stretch_of_scan {c : Char} {rest left : List Char} {t : Token} (h : scan c rest = (t, left))
    (ht : ¬t.Faulty) :
    ∃ w, rest = w ++ left ∧ Stretch t (c :: w) ∧ ∀ r, r <+: left → scan c (w ++ r) = (t, r) := by
  have hscanner := scanner_scan c
  generalize scan c = f at h hscanner
  cases hscanner with
  | openObject =>
    cases h
    exact ⟨[], rfl, .openObject, fun r _ => rfl⟩
  | closeObject =>
    cases h
    exact ⟨[], rfl, .closeObject, fun r _ => rfl⟩
  | mark hopen hclose hc =>
    cases h
    exact ⟨[], rfl, .bland hopen hclose (List.forall_mem_singleton.mpr hc), fun r _ => rfl⟩
  | string =>
    obtain ⟨w, rfl, hw, ⟨content, rfl⟩, htakes⟩ := takes_stringToken h ht
    exact ⟨w, rfl, .string content hw, fun r _ => htakes r⟩
  | negative =>
    obtain ⟨⟨v, rfl⟩, w, rfl, hw, htakes⟩ := takes_numberToken h ht
    exact ⟨w, rfl, .bland nofun nofun (List.forall_mem_cons.mpr ⟨by decide, hw⟩), htakes⟩
  | digit hdigit =>
    replace h : numberToken false (c :: rest) = (t, left) := h
    have hshorter : left.length ≤ rest.length := by
      have hlength := length_numberToken false (c :: rest)
      rw [h, List.dropWhile_cons_of_pos hdigit] at hlength
      exact hlength.trans (length_dropWhile_le rest)
    obtain ⟨⟨v, rfl⟩, w, hw, hbland, htakes⟩ := takes_numberToken h ht
    cases w with
    | nil =>
      rw [List.nil_append] at hw
      rw [← hw, List.length_cons] at hshorter
      exact absurd hshorter (Nat.not_succ_le_self _)
    | cons d w =>
      obtain ⟨rfl, rfl⟩ := List.cons.inj hw
      exact ⟨w, rfl, .bland nofun nofun hbland, htakes⟩
  | literal hopen hclose hbland =>
    obtain ⟨hc, hes⟩ := List.forall_mem_cons.mp hbland
    obtain ⟨rfl, w, rfl, hw, htakes⟩ := takes_literalToken hes h ht
    exact ⟨w, rfl, .bland hopen hclose (List.forall_mem_cons.mpr ⟨hc, hw⟩), htakes⟩
  | stray =>
    cases h
    exact absurd trivial ht

end Catalogue.Json
