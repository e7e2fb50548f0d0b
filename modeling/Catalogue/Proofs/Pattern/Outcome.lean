import Catalogue.Pattern.Basic
import Mathlib.Data.List.Forall2
import Mathlib.Data.List.Infix

/-! What a pattern matches, said without an order of its ways: which stretch of a text it can match
between what comes before and what comes after, and what it captures there (`Fits`). The ways of a
pattern at a place are those stretches (`mem_outcomes`), the matches in a text are best ways at places of the
text (`mem_allMatches`), and there are none only if nothing in the text fits
(`allMatches_eq_nil_iff`). Where the order counts, the last part of a sequence goes its best way
(`exists_head_of_seq`), and as often as possible is as long as the characters hold (`head_star_one`). -/
namespace Catalogue.Pattern

/-- What was captured, the latest first. -/
abbrev Captures := List (Nat × List Char)

/-- The place that has `before` behind it and `rest` ahead. -/
def Place.between (before rest : List Char) (captures : Captures) : Place :=
  ⟨before.length, before.getLast?, rest, captures⟩

/-- Whether between two texts there is a word character on one side and none on the other. -/
def Edge (before after : List Char) : Prop :=
  (before.getLast?.any Text.wordCharacters.holds) ≠ after.head?.any Text.wordCharacters.holds

/-- Whether a text is stretches, none of them empty, for each of which a relation holds: the text before and
after a stretch, the stretch, and what is captured in it. -/
inductive Repeats (fits : List Char → List Char → List Char → Captures → Prop) :
    List Char → List Char → List Char → Captures → Prop
  | none (l r : List Char) : Repeats fits l [] r []
  | more {l x y r : List Char} {cs ds : Captures} : x ≠ [] → fits l x (y ++ r) cs → Repeats fits (l ++ x) y r ds →
    Repeats fits l (x ++ y) r (ds ++ cs)

/-- Whether a pattern can match `x` between `l` and `r`, and captures `cs`. -/
def Fits : Pattern → List Char → List Char → List Char → Captures → Prop
  | empty, _, x, _, cs => x = [] ∧ cs = []
  | one holds, _, x, _, cs => (∃ c, x = [c] ∧ holds c = true) ∧ cs = []
  | seq a b, l, x, r, cs =>
    ∃ y z as bs, x = y ++ z ∧ cs = bs ++ as ∧ a.Fits l y (z ++ r) as ∧ b.Fits (l ++ y) z r bs
  | either a b, l, x, r, cs => a.Fits l x r cs ∨ b.Fits l x r cs
  | many _ a, l, x, r, cs => Repeats a.Fits l x r cs
  | capture n a, l, x, r, cs => ∃ as, cs = (n, x) :: as ∧ a.Fits l x r as
  | wordEdge, l, x, r, cs => x = [] ∧ Edge l r ∧ cs = []
  | textEnd, _, x, r, cs => x = [] ∧ r = [] ∧ cs = []

/-! ### Ways -/

theorem next_between (l r : List Char) (c : Char) (rest : List Char) (cs : Captures) :
    (Place.between l r cs).next c rest = .between (l ++ [c]) rest cs := by
  simp [Place.between, Place.next]

theorem pos_lt_between {l x r r' : List Char} {cs cs' : Captures} :
    (Place.between l r cs).pos < (Place.between (l ++ x) r' cs').pos ↔ x ≠ [] := by
  simp [Place.between, List.length_pos_iff]

theorem mem_repeated_succ {lazily : Bool} {step : Place → List Place} {fuel : Nat} {s t : Place} :
    t ∈ repeated lazily step (fuel + 1) s ↔
      t = s ∨ ∃ u ∈ step s, s.pos < u.pos ∧ t ∈ repeated lazily step fuel u := by
  rw [repeated]
  cases lazily <;> simp [or_comm, and_assoc]

section Repeated
variable {fits : List Char → List Char → List Char → Captures → Prop} {step : Place → List Place}
  (hstep : ∀ l ahead cs t, t ∈ step (.between l ahead cs) ↔
    ∃ x r as, ahead = x ++ r ∧ fits l x r as ∧ t = .between (l ++ x) r (as ++ cs))
include hstep

theorem repeats_of_mem {lazily : Bool} {fuel : Nat} {l ahead : List Char} {cs : Captures} {t : Place}
    (h : t ∈ repeated lazily step fuel (.between l ahead cs)) :
    ∃ x r as, ahead = x ++ r ∧ Repeats fits l x r as ∧ t = .between (l ++ x) r (as ++ cs) := by
  have hstay : ∃ x r as, ahead = x ++ r ∧ Repeats fits l x r as ∧
      Place.between l ahead cs = .between (l ++ x) r (as ++ cs) := ⟨[], ahead, [], rfl, .none .., by simp⟩
  induction fuel generalizing l ahead cs with
  | zero =>
    obtain rfl := List.mem_singleton.mp h
    exact hstay
  | succ fuel ih =>
    rcases mem_repeated_succ.mp h with rfl | ⟨u, hu, hpos, ht⟩
    · exact hstay
    · obtain ⟨x, r, as, rfl, hx, rfl⟩ := (hstep ..).mp hu
      obtain ⟨y, r, bs, rfl, hy, rfl⟩ := ih ht ⟨[], r, [], rfl, .none .., by simp⟩
      exact ⟨x ++ y, r, bs ++ as, (List.append_assoc ..).symm, .more (pos_lt_between.mp hpos) hx hy, by simp⟩

theorem mem_of_repeats {lazily : Bool} {l x r : List Char} {as : Captures} (h : Repeats fits l x r as)
    {fuel : Nat} (hfuel : (x ++ r).length ≤ fuel) (cs : Captures) :
    Place.between (l ++ x) r (as ++ cs) ∈ repeated lazily step fuel (.between l (x ++ r) cs) := by
  induction h generalizing fuel cs with
  | none l r =>
    cases fuel with
    | zero => simp [repeated]
    | succ fuel => exact mem_repeated_succ.mpr (.inl (by simp))
  | @more l x y r as bs hne hx hy ih =>
    have hpositive := List.length_pos_iff.mpr hne
    obtain ⟨fuel, rfl⟩ : ∃ n, fuel = n + 1 := ⟨fuel - 1, by simp at hfuel; omega⟩
    have hfirst : Place.between (l ++ x) (y ++ r) (as ++ cs) ∈ step (.between l (x ++ y ++ r) cs) :=
      (hstep ..).mpr ⟨x, y ++ r, as, List.append_assoc .., hx, rfl⟩
    have hless : (y ++ r).length ≤ fuel := by
      simp at hfuel ⊢
      omega
    have hrest := ih hless (as ++ cs)
    rw [List.append_assoc, ← List.append_assoc bs] at hrest
    exact mem_repeated_succ.mpr (.inr ⟨_, hfirst, pos_lt_between.mpr hne, hrest⟩)

end Repeated

theorem outcomes_one_cons (holds : Char → Bool) (l : List Char) (c : Char) (rest : List Char) (cs : Captures) :
    (one holds).outcomes (.between l (c :: rest) cs) = if holds c then [.between (l ++ [c]) rest cs] else [] := by
  rw [← next_between l (c :: rest)]
  rfl

theorem mem_outcomes_one {holds : Char → Bool} {l ahead : List Char} {cs : Captures} {t : Place} :
    t ∈ (one holds).outcomes (.between l ahead cs) ↔
      ∃ c rest, ahead = c :: rest ∧ holds c = true ∧ t = .between (l ++ [c]) rest cs := by
  cases ahead with
  | nil => simp [outcomes, Place.between]
  | cons c rest =>
    rw [outcomes_one_cons, List.mem_ite_nil_right, List.mem_singleton]
    constructor
    · rintro ⟨hc, rfl⟩
      exact ⟨c, rest, rfl, hc, rfl⟩
    · rintro ⟨_, _, ⟨⟩, hc, rfl⟩
      exact ⟨hc, rfl⟩

theorem mem_outcomes_capture {n : Nat} {a : Pattern} {l ahead : List Char} {cs : Captures} {t : Place}
    (ih : ∀ u, u ∈ a.outcomes (.between l ahead cs) ↔
      ∃ x r as, ahead = x ++ r ∧ a.Fits l x r as ∧ u = .between (l ++ x) r (as ++ cs)) :
    t ∈ (capture n a).outcomes (.between l ahead cs) ↔
      ∃ x r as, ahead = x ++ r ∧ a.Fits l x r as ∧ t = .between (l ++ x) r ((n, x) :: as ++ cs) := by
  have htaken (x r : List Char) (as : Captures) :
      (Place.between l (x ++ r) cs).rest.take
        ((Place.between (l ++ x) r (as ++ cs)).pos - (Place.between l (x ++ r) cs).pos) = x := by
    simp [Place.between]
  simp only [outcomes, List.mem_map]
  constructor
  · rintro ⟨u, hu, rfl⟩
    obtain ⟨x, r, as, rfl, hx, rfl⟩ := (ih u).mp hu
    exact ⟨x, r, as, rfl, hx, by rw [htaken]; rfl⟩
  · rintro ⟨x, r, as, rfl, hx, rfl⟩
    exact ⟨_, (ih _).mpr ⟨x, r, as, rfl, hx, rfl⟩, by rw [htaken]; rfl⟩

/-- The ways of a pattern at a place lead over the stretches that it fits, with what it captures there. -/
theorem mem_outcomes (p : Pattern) {l ahead : List Char} {cs : Captures} {t : Place} :
    t ∈ p.outcomes (.between l ahead cs) ↔
      ∃ x r as, ahead = x ++ r ∧ p.Fits l x r as ∧ t = .between (l ++ x) r (as ++ cs) := by
  induction p generalizing l ahead cs t with
  | empty => simp [outcomes, Fits]
  | one holds =>
    rw [mem_outcomes_one]
    constructor
    · rintro ⟨c, rest, rfl, hc, rfl⟩
      exact ⟨[c], rest, [], rfl, ⟨⟨c, rfl, hc⟩, rfl⟩, rfl⟩
    · rintro ⟨_, r, _, rfl, ⟨⟨c, rfl, hc⟩, rfl⟩, rfl⟩
      exact ⟨c, r, rfl, hc, rfl⟩
  | seq a b iha ihb =>
    simp only [outcomes, List.mem_flatMap, Fits]
    constructor
    · rintro ⟨u, hu, ht⟩
      obtain ⟨y, ahead, as, rfl, hy, rfl⟩ := iha.mp hu
      obtain ⟨z, r, bs, rfl, hz, rfl⟩ := ihb.mp ht
      exact ⟨y ++ z, r, bs ++ as, (List.append_assoc ..).symm, ⟨y, z, as, bs, rfl, rfl, hy, hz⟩, by simp⟩
    · rintro ⟨x, r, cs', rfl, ⟨y, z, as, bs, rfl, rfl, hy, hz⟩, rfl⟩
      exact ⟨_, iha.mpr ⟨y, z ++ r, as, List.append_assoc .., hy, rfl⟩, ihb.mpr ⟨z, r, bs, rfl, hz, by simp⟩⟩
  | either a b iha ihb =>
    simp only [outcomes, List.mem_append, iha, ihb, Fits]
    constructor
    · rintro (⟨x, r, as, hahead, hx, ht⟩ | ⟨x, r, as, hahead, hx, ht⟩)
      · exact ⟨x, r, as, hahead, .inl hx, ht⟩
      · exact ⟨x, r, as, hahead, .inr hx, ht⟩
    · rintro ⟨x, r, as, hahead, hx | hx, ht⟩
      · exact .inl ⟨x, r, as, hahead, hx, ht⟩
      · exact .inr ⟨x, r, as, hahead, hx, ht⟩
  | many lazily a ih =>
    constructor
    · exact repeats_of_mem fun l ahead cs t => ih
    · rintro ⟨x, r, as, rfl, hx, rfl⟩
      exact mem_of_repeats (fun l ahead cs t => ih) hx le_rfl cs
  | capture n a ih =>
    rw [mem_outcomes_capture fun u => ih]
    constructor
    · rintro ⟨x, r, as, rfl, hx, rfl⟩
      exact ⟨x, r, _, rfl, ⟨as, rfl, hx⟩, rfl⟩
    · rintro ⟨x, r, _, rfl, ⟨as, rfl, hx⟩, rfl⟩
      exact ⟨x, r, as, rfl, hx, rfl⟩
  | wordEdge =>
    have hedge : (Place.between l ahead cs).atWordEdge = true ↔ Edge l ahead := bne_iff_ne
    rw [outcomes, List.mem_ite_nil_right, List.mem_singleton, hedge]
    constructor
    · rintro ⟨hat, rfl⟩
      exact ⟨[], ahead, [], rfl, ⟨rfl, hat, rfl⟩, by simp⟩
    · rintro ⟨_, r, _, rfl, ⟨rfl, hat, rfl⟩, rfl⟩
      exact ⟨hat, by simp⟩
  | textEnd =>
    have hend : (Place.between l ahead cs).rest.isEmpty = true ↔ ahead = [] := List.isEmpty_iff
    rw [outcomes, List.mem_ite_nil_right, List.mem_singleton, hend]
    constructor
    · rintro ⟨rfl, rfl⟩
      exact ⟨[], [], [], rfl, ⟨rfl, rfl, rfl⟩, by simp⟩
    · rintro ⟨_, r, _, rfl, ⟨rfl, rfl, rfl⟩, rfl⟩
      exact ⟨rfl, by simp⟩

/-! ### Building -/

variable {l x r : List Char} {cs : Captures}

theorem fits_seq {a b : Pattern} : (seq a b).Fits l x r cs ↔
    ∃ y z as bs, x = y ++ z ∧ cs = bs ++ as ∧ a.Fits l y (z ++ r) as ∧ b.Fits (l ++ y) z r bs := Iff.rfl

theorem fits_oneOf {ps : List Pattern} : (oneOf ps).Fits l x r cs ↔ ∃ p ∈ ps, p.Fits l x r cs := by
  fun_induction oneOf ps with
  | case1 => simp [Fits]
  | case2 p => simp
  | case3 p rest _ ih => simp [Fits, ih]

theorem fits_many_one {lazily : Bool} {holds : Char → Bool} :
    (many lazily (one holds)).Fits l x r cs ↔ (∀ c ∈ x, holds c = true) ∧ cs = [] := by
  constructor
  · intro h
    replace h : Repeats (one holds).Fits l x r cs := h
    induction h with
    | none => simp
    | more _ hx _ ih =>
      obtain ⟨⟨c, rfl, hc⟩, rfl⟩ := hx
      simpa [hc] using ih
  · rintro ⟨h, rfl⟩
    show Repeats (one holds).Fits l x r []
    induction x generalizing l with
    | nil => exact .none l r
    | cons c x ih =>
      obtain ⟨hc, hx⟩ := List.forall_mem_cons.mp h
      exact .more (List.cons_ne_nil c []) ⟨⟨c, rfl, hc⟩, rfl⟩ (ih hx)

theorem fits_one_then {lazily : Bool} {first holds : Char → Bool} :
    (seq (one first) (many lazily (one holds))).Fits l x r cs ↔
      ∃ c y, x = c :: y ∧ first c = true ∧ (∀ d ∈ y, holds d = true) ∧ cs = [] := by
  simp only [fits_seq, fits_many_one]
  constructor
  · rintro ⟨_, y, _, _, rfl, rfl, ⟨⟨c, rfl, hc⟩, rfl⟩, hy, rfl⟩
    exact ⟨c, y, rfl, hc, hy, rfl⟩
  · rintro ⟨c, y, rfl, hc, hy, rfl⟩
    exact ⟨[c], y, [], [], rfl, rfl, ⟨⟨c, rfl, hc⟩, rfl⟩, hy, rfl⟩

theorem fits_plus_one {holds : Char → Bool} :
    (plus (one holds)).Fits l x r cs ↔ x ≠ [] ∧ (∀ c ∈ x, holds c = true) ∧ cs = [] := by
  rw [plus, star, fits_one_then]
  cases x <;> simp [and_assoc]

/-- Whether the characters are those of a word of letters, in either case. -/
def Reads (w : String) (x : List Char) : Prop := List.Forall₂ (fun letter c => foldsTo letter c = true) w.toList x

instance (w : String) (x : List Char) : Decidable (Reads w x) :=
  inferInstanceAs (Decidable (List.Forall₂ _ w.toList x))

theorem fits_chain_ones {α : Type} {holds : α → Char → Bool} {as : List α} :
    (chain (as.map fun a => one (holds a))).Fits l x r cs ↔
      List.Forall₂ (fun a c => holds a c = true) as x ∧ cs = [] := by
  induction as generalizing l x cs with
  | nil => simp [chain, Fits]
  | cons a as ih =>
    cases as with
    | nil => simp [chain, Fits, List.forall₂_cons_left_iff, and_comm]
    | cons b as =>
      have hchain : chain ((a :: b :: as).map fun a => one (holds a)) =
          seq (one (holds a)) (chain ((b :: as).map fun a => one (holds a))) := rfl
      simp only [hchain, fits_seq, ih]
      constructor
      · rintro ⟨_, y, _, _, rfl, rfl, ⟨⟨c, rfl, hc⟩, rfl⟩, hy, rfl⟩
        exact ⟨.cons hc hy, rfl⟩
      · rintro ⟨hx, rfl⟩
        obtain ⟨c, y, hc, hy, rfl⟩ := List.forall₂_cons_left_iff.mp hx
        exact ⟨[c], y, [], [], rfl, rfl, ⟨⟨c, rfl, hc⟩, rfl⟩, hy, rfl⟩

theorem fits_word {w : String} : (word w).Fits l x r cs ↔ Reads w x ∧ cs = [] := fits_chain_ones

/-! ### Characters -/

/-- Whether every character that a pattern can match is of a kind. -/
def MatchesOnly (kind : Char → Prop) : Pattern → Prop
  | empty | wordEdge | textEnd => True
  | one holds => ∀ c, holds c = true → kind c
  | seq a b | either a b => a.MatchesOnly kind ∧ b.MatchesOnly kind
  | many _ a | capture _ a => a.MatchesOnly kind

theorem Fits.forall_mem {p : Pattern} {kind : Char → Prop} (h : p.Fits l x r cs) (hp : p.MatchesOnly kind) :
    ∀ c ∈ x, kind c := by
  induction p generalizing l x r cs with
  | empty =>
    obtain ⟨rfl, -⟩ := h
    exact nofun
  | one holds =>
    obtain ⟨⟨c, rfl, hc⟩, -⟩ := h
    exact List.forall_mem_singleton.mpr (hp c hc)
  | seq a b iha ihb =>
    obtain ⟨_, _, _, _, rfl, -, ha, hb⟩ := h
    exact List.forall_mem_append.mpr ⟨iha ha hp.1, ihb hb hp.2⟩
  | either a b iha ihb => exact h.elim (iha · hp.1) (ihb · hp.2)
  | many lazily a ih =>
    replace h : Repeats a.Fits l x r cs := h
    induction h with
    | none => exact nofun
    | more _ hx _ ihrest => exact List.forall_mem_append.mpr ⟨ih hx hp, ihrest⟩
  | capture n a ih =>
    obtain ⟨_, -, h⟩ := h
    exact ih h hp
  | wordEdge =>
    obtain ⟨rfl, -⟩ := h
    exact nofun
  | textEnd =>
    obtain ⟨rfl, -⟩ := h
    exact nofun

/-! ### Captures -/

/-- The parts of a pattern whose matches are captured, with their numbers. -/
def groups : Pattern → List (Nat × Pattern)
  | empty | one _ | wordEdge | textEnd => []
  | seq a b | either a b => a.groups ++ b.groups
  | many _ a => a.groups
  | capture n a => (n, a) :: a.groups

/-- Whatever is captured is what such a part matches. -/
theorem Fits.exists_group {p : Pattern} (h : p.Fits l x r cs) {n : Nat} {y : List Char} (hy : (n, y) ∈ cs) :
    ∃ a, (n, a) ∈ p.groups ∧ ∃ l' r' ds, a.Fits l' y r' ds := by
  induction p generalizing l x r cs with
  | empty =>
    obtain ⟨-, rfl⟩ := h
    cases hy
  | one holds =>
    obtain ⟨-, rfl⟩ := h
    cases hy
  | seq a b iha ihb =>
    obtain ⟨_, _, as, bs, -, rfl, ha, hb⟩ := h
    rcases List.mem_append.mp hy with hy | hy
    · obtain ⟨g, hg, hfits⟩ := ihb hb hy
      exact ⟨g, List.mem_append_right _ hg, hfits⟩
    · obtain ⟨g, hg, hfits⟩ := iha ha hy
      exact ⟨g, List.mem_append_left _ hg, hfits⟩
  | either a b iha ihb =>
    rcases h with h | h
    · obtain ⟨g, hg, hfits⟩ := iha h hy
      exact ⟨g, List.mem_append_left _ hg, hfits⟩
    · obtain ⟨g, hg, hfits⟩ := ihb h hy
      exact ⟨g, List.mem_append_right _ hg, hfits⟩
  | many lazily a ih =>
    replace h : Repeats a.Fits l x r cs := h
    induction h with
    | none => cases hy
    | more _ hx _ ihrest =>
      rcases List.mem_append.mp hy with hy | hy
      · exact ihrest hy
      · exact ih hx hy
  | capture k a ih =>
    obtain ⟨as, rfl, h⟩ := h
    rcases List.mem_cons.mp hy with heq | hy
    · cases heq
      exact ⟨a, List.mem_cons_self .., l, r, as, h⟩
    · obtain ⟨g, hg, hfits⟩ := ih h hy
      exact ⟨g, List.mem_cons_of_mem _ hg, hfits⟩
  | wordEdge =>
    obtain ⟨-, -, rfl⟩ := h
    cases hy
  | textEnd =>
    obtain ⟨-, -, rfl⟩ := h
    cases hy

/-- A pattern without such parts captures nothing. -/
theorem Fits.captures_eq_nil {p : Pattern} (h : p.Fits l x r cs) (hp : p.groups = []) : cs = [] := by
  refine List.eq_nil_iff_forall_not_mem.mpr fun e he => ?_
  obtain ⟨a, ha, -⟩ := h.exists_group he
  rw [hp] at ha
  cases ha

theorem mem_of_captured? {s : Place} {n : Nat} {y : List Char} (h : s.captured? n = some y) : (n, y) ∈ s.captures := by
  obtain ⟨e, he, rfl⟩ := Option.map_eq_some_iff.mp h
  have hnumber : e.1 = n := by simpa using List.find?_some he
  rw [← hnumber]
  exact List.mem_of_find?_eq_some he

/-! ### Searching -/

/-- A search finds a best way at the first place from which there is any. -/
theorem findFrom_eq_some {p : Pattern} {l ahead : List Char} {t : Place}
    (h : p.findFrom (.between l ahead []) ahead = some t) :
    ∃ x r, ahead = x ++ r ∧ (p.outcomes (.between (l ++ x) r [])).head? = some t := by
  induction ahead generalizing l with
  | nil => exact ⟨[], [], rfl, by rw [List.append_nil]; exact h⟩
  | cons c rest ih =>
    rw [findFrom] at h
    split at h
    · rename_i u hu
      cases h
      exact ⟨[], c :: rest, rfl, by rw [List.append_nil]; exact hu⟩
    · rw [next_between] at h
      obtain ⟨x, r, rfl, hx⟩ := ih h
      exact ⟨c :: x, r, rfl, by simpa using hx⟩

theorem findFrom_eq_none_iff {p : Pattern} {l ahead : List Char} :
    p.findFrom (.between l ahead []) ahead = none ↔
      ∀ x r, ahead = x ++ r → p.outcomes (.between (l ++ x) r []) = [] := by
  induction ahead generalizing l with
  | nil =>
    have hfind : p.findFrom (.between l [] []) [] = (p.outcomes (.between l [] [])).head? := rfl
    rw [hfind, List.head?_eq_none_iff]
    constructor
    · intro h x r hnil
      obtain ⟨rfl, rfl⟩ := List.append_eq_nil_iff.mp hnil.symm
      rwa [List.append_nil]
    · intro h
      simpa using h [] [] rfl
  | cons c rest ih =>
    have hfind : p.findFrom (.between l (c :: rest) []) (c :: rest) = none ↔
        p.outcomes (.between l (c :: rest) []) = [] ∧ p.findFrom (.between (l ++ [c]) rest []) rest = none := by
      rw [findFrom, next_between, ← List.head?_eq_none_iff]
      split <;> rename_i hhead
      · exact iff_of_false (Option.some_ne_none _) fun h => Option.some_ne_none _ (hhead.symm.trans h.1)
      · exact (and_iff_right hhead).symm
    rw [hfind, ih]
    constructor
    · rintro ⟨hhere, hlater⟩ x r hahead
      cases x with
      | nil =>
        obtain rfl : c :: rest = r := hahead
        rwa [List.append_nil]
      | cons d x =>
        obtain ⟨rfl, rfl⟩ := List.cons.inj hahead
        simpa using hlater x r rfl
    · intro h
      refine ⟨by simpa using h [] (c :: rest) rfl, ?_⟩
      rintro x r rfl
      simpa using h (c :: x) r rfl

theorem mem_matchesFrom {p : Pattern} {fuel : Nat} {l ahead : List Char} {cs : Captures} {m : Place}
    (h : m ∈ p.matchesFrom fuel (.between l ahead cs)) :
    ∃ x r, ahead = x ++ r ∧ (p.outcomes (.between (l ++ x) r [])).head? = some m := by
  induction fuel generalizing l ahead cs with
  | zero => cases h
  | succ fuel ih =>
    rw [matchesFrom] at h
    split at h
    · rename_i t ht
      obtain ⟨x, r, rfl, hhead⟩ := findFrom_eq_some ht
      rcases List.mem_cons.mp h with rfl | hlater
      · exact ⟨x, r, rfl, hhead⟩
      · split at hlater
        · obtain ⟨y, r', as, rfl, -, rfl⟩ := (mem_outcomes p).mp (List.mem_of_mem_head? hhead)
          obtain ⟨z, r, rfl, hm⟩ := ih hlater
          exact ⟨x ++ (y ++ z), r, by simp, by simpa using hm⟩
        · cases hlater
    · cases h

theorem start_eq (text : List Char) : Place.start text = .between [] text [] := rfl

/-- A match in a text is a best way at some place of the text. -/
theorem mem_allMatches {p : Pattern} {text : List Char} {m : Place} (h : m ∈ p.allMatches text) :
    ∃ l ahead, text = l ++ ahead ∧ (p.outcomes (.between l ahead [])).head? = some m := by
  rw [allMatches, start_eq] at h
  exact mem_matchesFrom h

/-- A match in a text leads over a stretch of the text that fits. -/
theorem fits_of_mem_allMatches {p : Pattern} {text : List Char} {m : Place} (h : m ∈ p.allMatches text) :
    ∃ l x r cs, text = l ++ (x ++ r) ∧ p.Fits l x r cs ∧ m = .between (l ++ x) r cs := by
  obtain ⟨l, _, rfl, hhead⟩ := mem_allMatches h
  obtain ⟨x, r, cs, rfl, hfits, rfl⟩ := (mem_outcomes p).mp (List.mem_of_mem_head? hhead)
  exact ⟨l, x, r, cs, rfl, hfits, by rw [List.append_nil]⟩

/-- What a match captured is what a part of the pattern matches. -/
theorem exists_group_of_captured {p : Pattern} {text : List Char} {m : Place} (h : m ∈ p.allMatches text) {n : Nat}
    {y : List Char} (hy : m.captured? n = some y) : ∃ a, (n, a) ∈ p.groups ∧ ∃ l r cs, a.Fits l y r cs := by
  obtain ⟨l, x, r, cs, -, hfits, rfl⟩ := fits_of_mem_allMatches h
  exact hfits.exists_group (mem_of_captured? hy)

/-- A text has no match exactly if nothing in it fits. -/
theorem allMatches_eq_nil_iff {p : Pattern} {text : List Char} :
    p.allMatches text = [] ↔ ∀ l x r cs, text = l ++ (x ++ r) → ¬p.Fits l x r cs := by
  have hfirst : p.allMatches text = [] ↔ p.findFrom (.between [] text []) text = none := by
    rw [allMatches, matchesFrom, start_eq]
    split <;> rename_i hfind
    · exact iff_of_false (List.cons_ne_nil _ _) fun h => Option.some_ne_none _ (hfind.symm.trans h)
    · exact iff_of_true rfl hfind
  rw [hfirst, findFrom_eq_none_iff]
  constructor
  · rintro h l x r cs rfl hfits
    have hnone := h l (x ++ r) rfl
    have hway : Place.between (l ++ x) r (cs ++ []) ∈ p.outcomes (.between l (x ++ r) []) :=
      (mem_outcomes p).mpr ⟨x, r, cs, rfl, hfits, rfl⟩
    rw [List.nil_append] at hnone
    rw [hnone] at hway
    cases hway
  · rintro h l ahead rfl
    refine List.eq_nil_iff_forall_not_mem.mpr fun t ht => ?_
    obtain ⟨x, r, cs, rfl, hfits, -⟩ := (mem_outcomes p).mp ht
    exact h l x r cs rfl hfits

/-! ### Best ways -/

/-- The best way of a sequence ends with the best way of its last part, from where the first part led. -/
theorem exists_head_of_seq {a b : Pattern} {s m : Place} (h : ((seq a b).outcomes s).head? = some m) :
    ∃ t ∈ a.outcomes s, (b.outcomes t).head? = some m := by
  rw [outcomes, List.head?_flatMap] at h
  obtain ⟨t, ht, hm⟩ := List.exists_of_findSome?_eq_some h
  exact ⟨t, ht, hm⟩

/-- As often as possible is as long as the characters are of the class. -/
theorem head_star_one (holds : Char → Bool) (l ahead : List Char) (cs : Captures) :
    ((star (one holds)).outcomes (.between l ahead cs)).head? =
      some (.between (l ++ ahead.takeWhile holds) (ahead.dropWhile holds) cs) := by
  have hrepeated (fuel : Nat) (hfuel : ahead.length ≤ fuel) :
      (repeated false (one holds).outcomes fuel (.between l ahead cs)).head? =
        some (.between (l ++ ahead.takeWhile holds) (ahead.dropWhile holds) cs) := by
    induction ahead generalizing fuel l with
    | nil => cases fuel <;> simp [repeated, outcomes, Place.between]
    | cons c rest ih =>
      obtain ⟨fuel, rfl⟩ : ∃ n, fuel = n + 1 := ⟨fuel - 1, by simp at hfuel; omega⟩
      rw [repeated, outcomes_one_cons]
      by_cases hc : holds c = true
      · have hpos : (Place.between l (c :: rest) cs).pos < (Place.between (l ++ [c]) rest cs).pos :=
          pos_lt_between.mpr (List.cons_ne_nil c [])
        have hrest := ih (l ++ [c]) fuel (Nat.le_of_succ_le_succ hfuel)
        simp [hc, hpos, hrest]
      · simp [hc]
  exact hrepeated _ le_rfl

/-- A run of characters that is captured goes as far as they are of the class, after the first. -/
theorem head_capture_run {n : Nat} {first holds : Char → Bool} {l ahead : List Char} {cs : Captures} {m : Place}
    (h : ((capture n (seq (one first) (star (one holds)))).outcomes (.between l ahead cs)).head? = some m) :
    ∃ c rest, ahead = c :: rest ∧ first c = true ∧ m = .between (l ++ c :: rest.takeWhile holds)
      (rest.dropWhile holds) ((n, c :: rest.takeWhile holds) :: cs) := by
  cases ahead with
  | nil => simp [outcomes, Place.between] at h
  | cons c rest =>
    rw [outcomes, outcomes, outcomes_one_cons] at h
    by_cases hc : first c = true
    · rw [if_pos hc, List.flatMap_singleton, List.head?_map, head_star_one] at h
      have htaken : rest.take (rest.takeWhile holds).length = rest.takeWhile holds :=
        (List.prefix_iff_eq_take.mp (List.takeWhile_prefix holds)).symm
      refine ⟨c, rest, rfl, hc, ?_⟩
      simp only [Option.map_some, Option.some.injEq] at h
      rw [← h]
      simp [Place.between, htaken]
    · rw [if_neg hc] at h
      cases h

/-- As seldom as possible is as short as what follows allows: of the places after characters of the class, the first
at which anything is found. -/
theorem findSome?_lazy_one {β : Type} {holds : Char → Bool} {find : Place → Option β} {l ahead : List Char}
    {cs : Captures} {b : β} (h : ((many true (one holds)).outcomes (.between l ahead cs)).findSome? find = some b) :
    ∃ x y, ahead = x ++ y ∧ (∀ c ∈ x, holds c = true) ∧ find (.between (l ++ x) y cs) = some b ∧
      ∀ u v, ahead = u ++ v → u.length < x.length → find (.between (l ++ u) v cs) = none := by
  rw [outcomes] at h
  replace h : (repeated true (one holds).outcomes ahead.length (.between l ahead cs)).findSome? find = some b := h
  induction ahead generalizing l with
  | nil =>
    refine ⟨[], [], rfl, nofun, ?_, fun _ _ _ hshort => absurd hshort (Nat.not_lt_zero _)⟩
    rw [List.append_nil]
    simpa [repeated] using h
  | cons c rest ih =>
    rw [List.length_cons, repeated, if_pos rfl, List.findSome?_cons] at h
    cases hhere : find (.between l (c :: rest) cs) with
    | some found =>
      rw [hhere] at h
      refine ⟨[], c :: rest, rfl, nofun, ?_, fun _ _ _ hshort => absurd hshort (Nat.not_lt_zero _)⟩
      rw [List.append_nil, hhere]
      exact h
    | none =>
      rw [hhere, outcomes_one_cons] at h
      by_cases hc : holds c = true
      · have hpos : (Place.between l (c :: rest) cs).pos < (Place.between (l ++ [c]) rest cs).pos :=
          pos_lt_between.mpr (List.cons_ne_nil c [])
        simp only [hc, if_true, List.filter_cons, hpos, decide_true, List.filter_nil, List.flatMap_singleton] at h
        obtain ⟨x, y, rfl, hx, hfound, hshortest⟩ := ih h
        refine ⟨c :: x, y, rfl, List.forall_mem_cons.mpr ⟨hc, hx⟩, by simpa using hfound, fun u v huv hshort => ?_⟩
        cases u with
        | nil =>
          obtain rfl : c :: (x ++ y) = v := huv
          rw [List.append_nil]
          exact hhere
        | cons d u =>
          obtain ⟨rfl, hrest⟩ := List.cons.inj huv
          simpa using hshortest u v hrest (Nat.lt_of_succ_lt_succ hshort)
      · rw [if_neg hc] at h
        cases h

/-- What is captured as seldom as possible is the shortest text after which the next part fits. -/
theorem head_capture_lazy {n : Nat} {holds : Char → Bool} {q : Pattern} {l ahead : List Char} {cs : Captures}
    {m : Place} (h : ((seq (capture n (plusLazy (one holds))) q).outcomes (.between l ahead cs)).head? = some m) :
    ∃ x y, ahead = x ++ y ∧ x ≠ [] ∧ (∀ c ∈ x, holds c = true) ∧
      (q.outcomes (.between (l ++ x) y ((n, x) :: cs))).head? = some m ∧
      ∀ u v, ahead = u ++ v → u ≠ [] → u.length < x.length → ∀ z r ds, v = z ++ r → ¬q.Fits (l ++ u) z r ds := by
  rw [outcomes, List.head?_flatMap, outcomes, plusLazy, outcomes, List.map_flatMap] at h
  cases ahead with
  | nil => simp [outcomes, Place.between] at h
  | cons c rest =>
    rw [outcomes_one_cons] at h
    by_cases hc : holds c = true
    · rw [if_pos hc, List.flatMap_singleton, List.findSome?_map] at h
      obtain ⟨x, y, rfl, hx, hfound, hshortest⟩ := findSome?_lazy_one h
      have hcaptured {u v : List Char} (huv : x ++ y = u ++ v) :
          ({ Place.between (l ++ [c] ++ u) v cs with
            captures := (n, (Place.between l (c :: (x ++ y)) cs).rest.take
              ((Place.between (l ++ [c] ++ u) v cs).pos - (Place.between l (c :: (x ++ y)) cs).pos)) :: cs } : Place) =
          .between (l ++ c :: u) v ((n, c :: u) :: cs) := by
        rw [huv]
        simp [Place.between]
      refine ⟨c :: x, y, rfl, List.cons_ne_nil c x, List.forall_mem_cons.mpr ⟨hc, hx⟩, ?_, ?_⟩
      · rw [← hcaptured rfl]
        exact hfound
      · intro u v huv hne hshort z r ds hv hfits
        obtain ⟨d, u, rfl⟩ := List.exists_cons_of_ne_nil hne
        obtain ⟨rfl, hrest⟩ := List.cons.inj huv
        have hnone : (q.outcomes (.between (l ++ c :: u) v ((n, c :: u) :: cs))).head? = none := by
          rw [← hcaptured hrest]
          exact hshortest u v hrest (Nat.lt_of_succ_lt_succ hshort)
        rw [List.head?_eq_none_iff, List.eq_nil_iff_forall_not_mem] at hnone
        exact hnone _ ((mem_outcomes q).mpr ⟨z, r, ds, hv, hfits, rfl⟩)
    · rw [if_neg hc] at h
      cases h

end Catalogue.Pattern
