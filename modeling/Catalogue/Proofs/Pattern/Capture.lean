import Catalogue.Proofs.Pattern.Outcome

/-! Where in a text a part is captured. A match keeps the text of a part and not its place, so the place is said
beside the match (`CapturesAt`), and then two matches in one text can be compared by what they capture of it.
Whatever a match captures is captured somewhere, and only that (`exists_capturesAt_iff`), and it stands there within
the match (`CapturesAt.stands`). -/
namespace Catalogue.Pattern

/-- Whether a pattern can match `x` between `l` and `r` and in it capture `part` under the number `n`, where `before`
is all the text before the part. -/
inductive CapturesAt (n : Nat) (before part : List Char) : Pattern → List Char → List Char → List Char → Prop
  | here {a : Pattern} {r : List Char} {as : Captures} : a.Fits before part r as →
    CapturesAt n before part (capture n a) before part r
  | within {m : Nat} {a : Pattern} {l x r : List Char} : CapturesAt n before part a l x r →
    CapturesAt n before part (capture m a) l x r
  | first {a b : Pattern} {l y z r : List Char} {bs : Captures} : CapturesAt n before part a l y (z ++ r) →
    b.Fits (l ++ y) z r bs → CapturesAt n before part (seq a b) l (y ++ z) r
  | later {a b : Pattern} {l y z r : List Char} {as : Captures} : a.Fits l y (z ++ r) as →
    CapturesAt n before part b (l ++ y) z r → CapturesAt n before part (seq a b) l (y ++ z) r
  | left {a b : Pattern} {l x r : List Char} : CapturesAt n before part a l x r →
    CapturesAt n before part (either a b) l x r
  | right {a b : Pattern} {l x r : List Char} : CapturesAt n before part b l x r →
    CapturesAt n before part (either a b) l x r
  | turn {lazily : Bool} {a : Pattern} {l y z r : List Char} {bs : Captures} : y ≠ [] →
    CapturesAt n before part a l y (z ++ r) → Repeats a.Fits (l ++ y) z r bs →
    CapturesAt n before part (many lazily a) l (y ++ z) r
  | again {lazily : Bool} {a : Pattern} {l y z r : List Char} {as : Captures} : y ≠ [] → a.Fits l y (z ++ r) as →
    CapturesAt n before part (many lazily a) (l ++ y) z r → CapturesAt n before part (many lazily a) l (y ++ z) r

variable {p a b : Pattern} {n : Nat} {l x y r before part : List Char} {cs : Captures}

/-- A part that is captured at a place stands there, within the match. -/
theorem CapturesAt.stands (h : CapturesAt n before part p l x r) :
    ∃ u v, before = l ++ u ∧ x = u ++ (part ++ v) := by
  induction h with
  | here => exact ⟨[], [], by simp, by simp⟩
  | within _ ih | left _ ih | right _ ih => exact ih
  | @first _ _ _ _ z _ _ _ _ ih | @turn _ _ _ _ z _ _ _ _ _ ih =>
    obtain ⟨u, v, rfl, rfl⟩ := ih
    exact ⟨u, v ++ z, rfl, by simp⟩
  | @later _ _ _ y _ _ _ _ _ ih | @again _ _ _ y _ _ _ _ _ _ ih =>
    obtain ⟨u, v, rfl, rfl⟩ := ih
    exact ⟨y ++ u, v, by simp, by simp⟩

/-- What can be captured at a place is captured by a match. -/
theorem CapturesAt.exists_fits (h : CapturesAt n before part p l x r) : ∃ cs, p.Fits l x r cs ∧ (n, part) ∈ cs := by
  induction h with
  | here h => exact ⟨_, ⟨_, rfl, h⟩, List.mem_cons_self ..⟩
  | within _ ih =>
    obtain ⟨cs, hfits, hmem⟩ := ih
    exact ⟨_, ⟨cs, rfl, hfits⟩, List.mem_cons_of_mem _ hmem⟩
  | first _ hb ih =>
    obtain ⟨cs, hfits, hmem⟩ := ih
    exact ⟨_, ⟨_, _, cs, _, rfl, rfl, hfits, hb⟩, List.mem_append_right _ hmem⟩
  | later ha _ ih =>
    obtain ⟨cs, hfits, hmem⟩ := ih
    exact ⟨_, ⟨_, _, _, cs, rfl, rfl, ha, hfits⟩, List.mem_append_left _ hmem⟩
  | left _ ih =>
    obtain ⟨cs, hfits, hmem⟩ := ih
    exact ⟨cs, .inl hfits, hmem⟩
  | right _ ih =>
    obtain ⟨cs, hfits, hmem⟩ := ih
    exact ⟨cs, .inr hfits, hmem⟩
  | turn hne _ hrest ih =>
    obtain ⟨cs, hfits, hmem⟩ := ih
    exact ⟨_, .more hne hfits hrest, List.mem_append_right _ hmem⟩
  | again hne ha _ ih =>
    obtain ⟨cs, hfits, hmem⟩ := ih
    exact ⟨_, .more hne ha hfits, List.mem_append_left _ hmem⟩

/-- Whatever a match captures it captures at some place. -/
theorem Fits.exists_capturesAt (h : p.Fits l x r cs) (hmem : (n, part) ∈ cs) :
    ∃ before, CapturesAt n before part p l x r := by
  induction p generalizing l x r cs with
  | empty =>
    obtain ⟨-, rfl⟩ := h
    cases hmem
  | one holds =>
    obtain ⟨-, rfl⟩ := h
    cases hmem
  | seq a b iha ihb =>
    obtain ⟨_, _, as, bs, rfl, rfl, ha, hb⟩ := h
    rcases List.mem_append.mp hmem with hmem | hmem
    · obtain ⟨before, hat⟩ := ihb hb hmem
      exact ⟨before, .later ha hat⟩
    · obtain ⟨before, hat⟩ := iha ha hmem
      exact ⟨before, .first hat hb⟩
  | either a b iha ihb =>
    rcases h with h | h
    · obtain ⟨before, hat⟩ := iha h hmem
      exact ⟨before, .left hat⟩
    · obtain ⟨before, hat⟩ := ihb h hmem
      exact ⟨before, .right hat⟩
  | many lazily a ih =>
    replace h : Repeats a.Fits l x r cs := h
    induction h with
    | none => cases hmem
    | more hne hturn hrest ihrest =>
      rcases List.mem_append.mp hmem with hmem | hmem
      · obtain ⟨before, hat⟩ := ihrest hmem
        exact ⟨before, .again hne hturn hat⟩
      · obtain ⟨before, hat⟩ := ih hturn hmem
        exact ⟨before, .turn hne hat hrest⟩
  | capture m a ih =>
    obtain ⟨as, rfl, h⟩ := h
    rcases List.mem_cons.mp hmem with heq | hmem
    · cases heq
      exact ⟨l, .here h⟩
    · obtain ⟨before, hat⟩ := ih h hmem
      exact ⟨before, .within hat⟩
  | wordEdge =>
    obtain ⟨-, -, rfl⟩ := h
    cases hmem
  | textEnd =>
    obtain ⟨-, -, rfl⟩ := h
    cases hmem

theorem exists_capturesAt_iff :
    (∃ before, CapturesAt n before part p l x r) ↔ ∃ cs, p.Fits l x r cs ∧ (n, part) ∈ cs := by
  constructor
  · intro ⟨before, hat⟩
    exact hat.exists_fits
  · intro ⟨cs, hfits, hmem⟩
    exact hfits.exists_capturesAt hmem

/-! ### Sequences -/

/-- After a part that captures nothing, the rest of a sequence captures. -/
theorem capturesAt_later (ha : a.groups = []) (h : CapturesAt n before part (seq a b) l x r) :
    ∃ y z, x = y ++ z ∧ a.Fits l y (z ++ r) [] ∧ CapturesAt n before part b (l ++ y) z r := by
  cases h with
  | first hat =>
    obtain ⟨cs, hfits, hmem⟩ := hat.exists_fits
    rw [hfits.captures_eq_nil ha] at hmem
    cases hmem
  | @later _ _ _ y z _ as hfits hat =>
    obtain rfl := hfits.captures_eq_nil ha
    exact ⟨y, z, rfl, hfits, hat⟩

/-- Before a part that captures nothing, the start of a sequence captures. -/
theorem capturesAt_first (hb : b.groups = []) (h : CapturesAt n before part (seq a b) l x r) :
    ∃ y z, x = y ++ z ∧ CapturesAt n before part a l y (z ++ r) ∧ b.Fits (l ++ y) z r [] := by
  cases h with
  | @first _ _ _ y z _ bs hat hfits =>
    obtain rfl := hfits.captures_eq_nil hb
    exact ⟨y, z, rfl, hat, hfits⟩
  | later _ hat =>
    obtain ⟨cs, hfits, hmem⟩ := hat.exists_fits
    rw [hfits.captures_eq_nil hb] at hmem
    cases hmem

/-- A group captures itself, if nothing is captured within it. -/
theorem capturesAt_capture (ha : a.groups = []) (h : CapturesAt n before part (capture n a) l x r) :
    l = before ∧ x = part ∧ a.Fits before part r [] := by
  cases h with
  | here hfits =>
    obtain rfl := hfits.captures_eq_nil ha
    exact ⟨rfl, rfl, hfits⟩
  | within hat =>
    obtain ⟨cs, hfits, hmem⟩ := hat.exists_fits
    rw [hfits.captures_eq_nil ha] at hmem
    cases hmem

end Catalogue.Pattern
