import Catalogue.Proofs.Json.Document

/-! What is read from a text. Each number of a text that can be read is an integer of
64 bits or a finite float, and the tree of a text holds no others (`read_sound`). So
every value that is read from it is well formed, and nested less deep than is allowed
(`readAny_wellFormed`). A record has every property that an empty one has and that
reading a field keeps (`RecordShape.read_preserves`). -/
namespace Catalogue

open Json

/-- What a computation gives is what its last part gives. -/
theorem bind_eq_ok {ε α β : Type} {x : Except ε α} {f : α → Except ε β} {b : β} :
    (x >>= f) = .ok b ↔ ∃ a, x = .ok a ∧ f a = .ok b := by
  cases x with
  | error e => exact ⟨nofun, nofun⟩
  | ok a =>
    refine ⟨fun h => ⟨a, rfl, h⟩, ?_⟩
    rintro ⟨_, h, hf⟩
    cases h
    exact hf

theorem map_eq_ok {ε α β : Type} {x : Except ε α} {f : α → β} {b : β} :
    x.map f = .ok b ↔ ∃ a, x = .ok a ∧ f a = b := by
  cases x with
  | error e => exact ⟨nofun, nofun⟩
  | ok a =>
    refine ⟨fun h => ⟨a, rfl, Except.ok.inj h⟩, ?_⟩
    rintro ⟨_, h, rfl⟩
    cases h
    rfl

namespace Json

/-! ### Tokens -/

/-- A number that is a well-formed value if it can be had. -/
def NumberSound (c : NumberContent) : Prop := ∀ v, c = .ok v → v.WellFormed ∧ v.depth = 0

theorem wellFormed_int {n : Int} (h : Word n) : (int n).WellFormed := ⟨.int h, .int n⟩

theorem wellFormed_float {x : Number.Binary64} (h : x.isFinite) : (float x).WellFormed := ⟨.float h, .float x⟩

theorem numberSound_numberValue (n : Number.Numeral) : NumberSound (numberValue n) := by
  intro v hv
  have hfloat (h : (if n.toBinary64.isFinite then Except.ok (float n.toBinary64)
      else .error SyntaxError.numberOutOfRange) = .ok v) : v.WellFormed ∧ v.depth = 0 := by
    split at h
    · rename_i hfinite
      cases h
      exact ⟨wellFormed_float hfinite, rfl⟩
    · cases h
  simp only [numberValue] at hv
  split at hv
  · split at hv
    · split at hv
      · exact hfloat hv
      · rename_i hzero
        cases hv
        rw [Bool.or_eq_true, not_or, Bool.not_eq_true', Bool.not_eq_false] at hzero
        obtain ⟨hlow, hhigh⟩ := Number.IntRange.holds_iff.mp hzero.2
        exact ⟨wellFormed_int ⟨hlow, hhigh.trans (by decide)⟩, rfl⟩
    · split at hv
      · rename_i hholds
        cases hv
        obtain ⟨hlow, hhigh⟩ := Number.IntRange.holds_iff.mp hholds
        exact ⟨wellFormed_int ⟨le_trans (by decide) hlow, hhigh⟩, rfl⟩
      · exact hfloat hv
  · exact hfloat hv

/-- A token whose number, if it is one, is sound. -/
def Token.Sound (t : Token) : Prop := ∀ c, t = .number c → NumberSound c

theorem Token.Plain.sound {t : Token} (h : t.Plain) : t.Sound := by
  rintro c rfl
  exact h.elim

theorem sound_numberToken (negative : Bool) (s : List Char) : (numberToken negative s).1.Sound := by
  unfold numberToken
  split
  · intro c hc
    cases hc
    exact numberSound_numberValue _
  · exact Token.Plain.sound trivial

theorem sound_stringToken (s : List Char) : (stringToken s).1.Sound := by
  simp only [stringToken]
  split <;> exact Token.Plain.sound trivial

theorem sound_literalToken {t : Token} (ht : t.Plain) (es s : List Char) : (literalToken t es s).1.Sound := by
  induction es generalizing s with
  | nil => exact ht.sound
  | cons e es ih =>
    cases s with
    | nil => exact Token.Plain.sound trivial
    | cons c rest =>
      rw [literalToken]
      split
      · exact ih rest
      · exact Token.Plain.sound trivial

theorem sound_scan (c : Char) (rest : List Char) : (scan c rest).1.Sound :=
  scan_induction (P := fun p => p.1.Sound) (fun _ ht => ht.sound) (sound_stringToken _)
    (sound_numberToken _ _) (fun _ => sound_numberToken _ _) (fun _ es ht _ => sound_literalToken ht es _)
    (Token.Plain.sound trivial)

theorem sound_of_mem_scanAll {fuel : Nat} {s : List Char} {t : Token} (h : t ∈ scanAll fuel s) : t.Sound := by
  induction fuel generalizing s with
  | zero => cases h
  | succ fuel ih =>
    cases s with
    | nil => cases h
    | cons c rest =>
      simp only [scanAll] at h
      split at h
      · exact ih h
      · rcases List.mem_cons.mp h with rfl | h
        · exact sound_scan c rest
        · exact ih h

/-! ### Trees -/

/-- A tree whose numbers are sound. -/
inductive Document.Sound : Document → Prop where
  | null : Sound .null
  | bool (b : Bool) : Sound (.bool b)
  | number {c : NumberContent} (h : NumberSound c) : Sound (.number c)
  | string (s : StringContent) : Sound (.string s)
  | list {items : List Document} (h : ∀ d ∈ items, Sound d) (stop : Option Fault) : Sound (.list items stop)
  | object {entries : List (StringContent × Document)} (h : ∀ e ∈ entries, Sound e.2) (stop : Option Fault) :
      Sound (.object entries stop)
  | broken (f : Fault) : Sound (.broken f)

/-- An open list or object whose finished part is sound. -/
def Frame.Sound : Frame → Prop
  | .list items => ∀ d ∈ items, d.Sound
  | .object entries _ => ∀ e ∈ entries, e.2.Sound

/-- A stage that holds nothing but sound trees. -/
def Stage.Sound : Stage → Prop
  | .after v => v.Sound
  | .nextKey entries | .colon entries _ => ∀ e ∈ entries, e.2.Sound
  | _ => True

/-- A move that leads to sound trees only. -/
def Move.Sound : Move → Prop
  | .next stage stack => stage.Sound ∧ ∀ f ∈ stack, f.Sound
  | .stop tree _ => tree.Sound

theorem sound_unwind {inner : Document} {stack : List Frame} (fault : Fault) (hi : inner.Sound)
    (hs : ∀ f ∈ stack, f.Sound) : (unwind fault inner stack).Sound := by
  induction stack generalizing inner with
  | nil => exact hi
  | cons frame stack ih =>
    obtain ⟨hframe, hrest⟩ := List.forall_mem_cons.mp hs
    cases frame with
    | list items =>
      refine ih (.list (fun d hd => ?_) _) hrest
      rcases List.mem_append.mp hd with hd | hd
      · exact hframe d (List.mem_reverse.mp hd)
      · rw [List.mem_singleton.mp hd]
        exact hi
    | object entries key =>
      refine ih (.object (fun e he => ?_) _) hrest
      rcases List.mem_append.mp he with he | he
      · exact hframe e (List.mem_reverse.mp he)
      · rw [List.mem_singleton.mp he]
        exact hi

theorem sound_noValue {stack : List Frame} (fault : Fault) (hs : ∀ f ∈ stack, f.Sound) :
    (noValue fault stack).Sound :=
  sound_unwind fault (.broken fault) hs

theorem sound_cutList {items : List Document} {stack : List Frame} (fault : Fault)
    (hi : ∀ d ∈ items, d.Sound) (hs : ∀ f ∈ stack, f.Sound) : (cutList fault items stack).Sound :=
  sound_unwind fault (.list (fun d hd => hi d (List.mem_reverse.mp hd)) _) hs

theorem sound_cutObject {entries : List (StringContent × Document)} {stack : List Frame} (fault : Fault)
    (he : ∀ e ∈ entries, e.2.Sound) (hs : ∀ f ∈ stack, f.Sound) : (cutObject fault entries stack).Sound :=
  sound_unwind fault (.object (fun e h => he e (List.mem_reverse.mp h)) _) hs

theorem sound_endFault {stage : Stage} {stack : List Frame} (hstage : stage.Sound)
    (hs : ∀ f ∈ stack, f.Sound) : (endFault stage stack).Sound := by
  cases stage with
  | value => exact sound_noValue _ hs
  | firstItem => exact sound_cutList _ nofun hs
  | firstKey => exact sound_cutObject _ nofun hs
  | nextKey entries => exact sound_cutObject _ hstage hs
  | colon entries key => exact sound_noValue _ (List.forall_mem_cons.mpr ⟨hstage, hs⟩)
  | after v =>
    cases stack with
    | nil => exact hstage
    | cons frame stack =>
      obtain ⟨hframe, hrest⟩ := List.forall_mem_cons.mp hs
      cases frame with
      | list items => exact sound_cutList _ (List.forall_mem_cons.mpr ⟨hstage, hframe⟩) hrest
      | object entries key => exact sound_cutObject _ (List.forall_mem_cons.mpr ⟨hstage, hframe⟩) hrest

theorem sound_startValue {stack : List Frame} {t : Token} (missing : Fault) (ht : t.Sound)
    (hs : ∀ f ∈ stack, f.Sound) : (startValue missing stack t).Sound := by
  cases t with
  | openList | openObject => exact ⟨trivial, hs⟩
  | null => exact ⟨.null, hs⟩
  | bool b => exact ⟨.bool b, hs⟩
  | number c => exact ⟨.number (ht c rfl), hs⟩
  | string s => exact ⟨.string s, hs⟩
  | broken f | brokenString f => exact sound_noValue f hs
  | closeList | closeObject | comma | colon | stray => exact sound_noValue missing hs

theorem sound_startKey {entries : List (StringContent × Document)} {stack : List Frame} {t : Token}
    (missing : Fault) (he : ∀ e ∈ entries, e.2.Sound) (hs : ∀ f ∈ stack, f.Sound) :
    (startKey missing entries stack t).Sound := by
  cases t with
  | string s => exact ⟨he, hs⟩
  | brokenString f => exact sound_cutObject f he hs
  | _ => exact sound_cutObject missing he hs

/-- A finished value is put into the list or object that it belongs to. -/
theorem sound_move_after {v : Document} {stack : List Frame} {t : Token} (hv : v.Sound)
    (hs : ∀ f ∈ stack, f.Sound) : (move (.after v) stack t).Sound := by
  cases stack with
  | nil => exact hv
  | cons frame below =>
    obtain ⟨hframe, hbelow⟩ := List.forall_mem_cons.mp hs
    cases frame with
    | list items =>
      have hitems : ∀ d ∈ v :: items, d.Sound := List.forall_mem_cons.mpr ⟨hv, hframe⟩
      cases t with
      | comma => exact ⟨trivial, List.forall_mem_cons.mpr ⟨hitems, hbelow⟩⟩
      | closeList => exact ⟨.list (fun d hd => hitems d (List.mem_reverse.mp hd)) _, hbelow⟩
      | _ => exact sound_cutList _ hitems hbelow
    | object entries key =>
      have hentries : ∀ e ∈ (key, v) :: entries, e.2.Sound := List.forall_mem_cons.mpr ⟨hv, hframe⟩
      cases t with
      | comma => exact ⟨hentries, hbelow⟩
      | closeObject => exact ⟨.object (fun e he => hentries e (List.mem_reverse.mp he)) _, hbelow⟩
      | _ => exact sound_cutObject _ hentries hbelow

/-- One move of the machine keeps all trees sound. -/
theorem sound_move {stage : Stage} {stack : List Frame} {t : Token} (hstage : stage.Sound)
    (hs : ∀ f ∈ stack, f.Sound) (ht : t.Sound) : (move stage stack t).Sound := by
  have hempty : ∀ f ∈ Frame.list [] :: stack, f.Sound :=
    List.forall_mem_cons.mpr ⟨nofun, hs⟩
  cases stage with
  | value =>
    simp only [move]
    split
    · obtain ⟨hframe, hbelow⟩ := List.forall_mem_cons.mp hs
      exact sound_cutList _ hframe hbelow
    · exact sound_startValue _ ht hs
  | firstItem =>
    simp only [move]
    split
    · exact ⟨.list (List.forall_mem_nil _) _, hs⟩
    · exact sound_startValue _ ht hempty
  | after v => exact sound_move_after hstage hs
  | firstKey =>
    simp only [move]
    split
    · exact ⟨.object (List.forall_mem_nil _) _, hs⟩
    · exact sound_startKey _ nofun hs
  | nextKey entries =>
    simp only [move]
    split
    · exact sound_cutObject _ hstage hs
    · exact sound_startKey _ hstage hs
  | colon entries key =>
    have hstack : ∀ f ∈ Frame.object entries key :: stack, f.Sound := List.forall_mem_cons.mpr ⟨hstage, hs⟩
    simp only [move]
    split
    · exact ⟨trivial, hstack⟩
    · exact sound_noValue _ hstack

theorem sound_build {stage : Stage} {stack : List Frame} {ts : List Token} (hstage : stage.Sound)
    (hs : ∀ f ∈ stack, f.Sound) (hts : ∀ t ∈ ts, t.Sound) : (build stage stack ts).1.Sound := by
  induction ts generalizing stage stack with
  | nil => exact sound_endFault hstage hs
  | cons t ts ih =>
    obtain ⟨ht, hrest⟩ := List.forall_mem_cons.mp hts
    have hmove := sound_move hstage hs ht
    rw [build]
    split
    · rename_i h
      rw [h] at hmove
      exact ih hmove.1 hmove.2 hrest
    · rename_i h
      rw [h] at hmove
      exact hmove

/-- The tree of any text is sound. -/
theorem read_sound (s : List Char) : (Json.read s).1.Sound :=
  sound_build trivial nofun fun _ h => sound_of_mem_scanAll h

/-! ### Values -/

/-- One can enter a text's lists and objects while some depth is left for their parts. -/
theorem enter_eq_ok {n : Nat} {src : Source} (h : Source.enter ⟨true, n⟩ = .ok src) :
    1 < n ∧ src = ⟨true, n - 1⟩ := by
  simp only [Source.enter, Bool.not_true, Bool.false_eq_true, if_false] at h
  split at h
  · cases h
  · cases h
    exact ⟨by omega, rfl⟩

theorem content_eq_ok {α : Type} {c : Except SyntaxError α} {a : α} (h : content c = .ok a) : c = .ok a := by
  cases c with
  | error e => cases h
  | ok b =>
    cases h
    rfl

/-- A value of the wrong type gives nothing. -/
theorem mismatch_ne_ok {α : Type} {expected : String} {d : Document} {a : α} :
    mismatch expected d ≠ .ok a := by
  intro h
  cases d with
  | number c =>
    obtain ⟨v, -, h⟩ := bind_eq_ok.mp h
    cases v <;> cases h
  | string s =>
    obtain ⟨t, -, h⟩ := bind_eq_ok.mp h
    cases h
  | _ => cases h

/-- Entries whose keys ascend and whose values are well formed and nested at most this deep. -/
structure EntriesWellFormed (n : Nat) (es : Entries Json) : Prop where
  keys : Entries.Ascending es
  values : ∀ e ∈ es, e.2.WellFormed ∧ e.2.depth ≤ n

theorem entriesWellFormed_sorted {n : Nat} {es : Entries Json}
    (h : ∀ e ∈ es, e.2.WellFormed ∧ e.2.depth ≤ n) : EntriesWellFormed n (Entries.sorted es) :=
  ⟨Entries.ascending_sorted es, fun e he => h e (Entries.mem_of_mem_sorted he)⟩

theorem depth_le {v : Json} {n : Nat} (hn : 1 < n) (h : v.depth ≤ n - 1 - 1 + 1) : v.depth ≤ n - 1 := by
  omega

mutual

/-- Every value that is read from a text is well formed. -/
theorem readAny_wellFormed (d : Document) (hd : d.Sound) {n : Nat} {v : Json}
    (h : readAny ⟨true, n⟩ d = .ok v) : v.WellFormed ∧ v.depth ≤ n - 1 := by
  cases d with
  | null =>
    cases h
    exact ⟨⟨.null, .null⟩, Nat.zero_le _⟩
  | bool b =>
    cases h
    exact ⟨⟨.bool b, .bool b⟩, Nat.zero_le _⟩
  | number c =>
    cases hd with
    | number hc =>
      obtain ⟨hv, hdepth⟩ := hc v (content_eq_ok h)
      exact ⟨hv, by omega⟩
  | string s =>
    obtain ⟨t, -, rfl⟩ := map_eq_ok.mp h
    exact ⟨⟨.str t, .str t⟩, Nat.zero_le _⟩
  | list items stop =>
    cases hd with
    | list hitems =>
      rw [readAny] at h
      obtain ⟨src, hsrc, h⟩ := bind_eq_ok.mp h
      obtain ⟨hn, rfl⟩ := enter_eq_ok hsrc
      obtain ⟨vs, hvs, h⟩ := bind_eq_ok.mp h
      obtain ⟨-, -, h⟩ := bind_eq_ok.mp h
      cases h
      have hall := readAnyItems_wellFormed items hitems hvs
      exact ⟨⟨.arr fun v hv => (hall v hv).1.writable, .arr fun v hv => (hall v hv).1.ordered⟩,
        depth_le hn (depth_arr_le_iff.mpr fun v hv => (hall v hv).2)⟩
  | object entries stop =>
    cases hd with
    | object hentries =>
      rw [readAny] at h
      obtain ⟨src, hsrc, h⟩ := bind_eq_ok.mp h
      obtain ⟨hn, rfl⟩ := enter_eq_ok hsrc
      obtain ⟨es, hes, h⟩ := bind_eq_ok.mp h
      obtain ⟨-, -, h⟩ := bind_eq_ok.mp h
      cases h
      have hall := entriesWellFormed_sorted (readAnyEntries_wellFormed entries hentries hes)
      exact ⟨⟨.obj fun e he => (hall.values e he).1.writable,
        .obj hall.keys fun e he => (hall.values e he).1.ordered⟩,
        depth_le hn (depth_obj_le_iff.mpr fun e he => (hall.values e he).2)⟩
  | broken f => cases h

theorem readAnyItems_wellFormed (items : List Document) (hd : ∀ d ∈ items, d.Sound) {n : Nat} {vs : List Json}
    (h : readAnyItems ⟨true, n⟩ items = .ok vs) : ∀ v ∈ vs, v.WellFormed ∧ v.depth ≤ n - 1 := by
  cases items with
  | nil =>
    cases h
    exact nofun
  | cons d rest =>
    obtain ⟨hfirst, hrest⟩ := List.forall_mem_cons.mp hd
    rw [readAnyItems] at h
    obtain ⟨w, hw, h⟩ := bind_eq_ok.mp h
    obtain ⟨ws, hws, h⟩ := bind_eq_ok.mp h
    cases h
    exact List.forall_mem_cons.mpr ⟨readAny_wellFormed d hfirst hw, readAnyItems_wellFormed rest hrest hws⟩

theorem readAnyEntries_wellFormed (entries : List (StringContent × Document)) (hd : ∀ e ∈ entries, e.2.Sound)
    {n : Nat} {es : List (String × Json)} (h : readAnyEntries ⟨true, n⟩ entries = .ok es) :
    ∀ e ∈ es, e.2.WellFormed ∧ e.2.depth ≤ n - 1 := by
  cases entries with
  | nil =>
    cases h
    exact nofun
  | cons entry rest =>
    obtain ⟨k, d⟩ := entry
    obtain ⟨hfirst, hrest⟩ := List.forall_mem_cons.mp hd
    rw [readAnyEntries] at h
    obtain ⟨key, -, h⟩ := bind_eq_ok.mp h
    obtain ⟨v, hv, h⟩ := bind_eq_ok.mp h
    obtain ⟨es, hes, h⟩ := bind_eq_ok.mp h
    cases h
    exact List.forall_mem_cons.mpr ⟨readAny_wellFormed d hfirst hv, readAnyEntries_wellFormed rest hrest hes⟩

end

/-! ### Parts of records -/

theorem readInt_int {expected : String} {range : Number.IntRange} {n : Int} (h : range.holds n) (src : Source) :
    readInt expected range src (toDocument (int n)) = .ok n := by
  simp only [readInt, toDocument, content, bind, Except.bind, h, if_true]

theorem holds_of_readInt {expected : String} {range : Number.IntRange} {src : Source} {d : Document} {n : Int}
    (h : readInt expected range src d = .ok n) : range.holds n := by
  unfold readInt at h
  split at h
  · obtain ⟨v, -, h⟩ := bind_eq_ok.mp h
    split at h
    · split at h
      · rename_i hholds
        cases h
        exact hholds
      · cases h
    · exact absurd h mismatch_ne_ok
  · exact absurd h mismatch_ne_ok

theorem mem_readOption {α : Type} {r : Reader α} {src : Source} {d : Document} {o : Option α}
    (h : readOption r src d = .ok o) {a : α} (ha : a ∈ o) : r src d = .ok a := by
  obtain rfl := Option.mem_def.mp ha
  unfold readOption at h
  split at h
  · cases h
  · obtain ⟨b, hb, hba⟩ := map_eq_ok.mp h
    cases hba
    exact hb

theorem forall_mem_mapM {α : Type} {f : Document → Except DecodeError α} {P : α → Prop}
    (hf : ∀ {d : Document} {a : α}, d.Sound → f d = .ok a → P a) {ds : List Document} (hd : ∀ d ∈ ds, d.Sound)
    {as : List α} (h : ds.mapM f = .ok as) : ∀ a ∈ as, P a := by
  induction ds generalizing as with
  | nil =>
    cases h
    exact List.forall_mem_nil _
  | cons d ds ih =>
    obtain ⟨hfirst, hrest⟩ := List.forall_mem_cons.mp hd
    rw [List.mapM_cons] at h
    obtain ⟨b, hb, h⟩ := bind_eq_ok.mp h
    obtain ⟨bs, hbs, h⟩ := bind_eq_ok.mp h
    cases h
    exact List.forall_mem_cons.mpr ⟨hf hfirst hb, ih hrest hbs⟩

/-- Every item of a list that is read has what reading an item gives it. -/
theorem forall_mem_readList {α : Type} {r : Reader α} {P : α → Prop} {n : Nat}
    (hr : ∀ {d : Document} {a : α}, d.Sound → r ⟨true, n - 1⟩ d = .ok a → P a) {d : Document} (hd : d.Sound)
    {as : List α} (h : readList r ⟨true, n⟩ d = .ok as) : ∀ a ∈ as, P a := by
  unfold readList at h
  split at h
  · rename_i items stop
    cases hd with
    | list hitems =>
      obtain ⟨src, hsrc, h⟩ := bind_eq_ok.mp h
      obtain ⟨-, rfl⟩ := enter_eq_ok hsrc
      obtain ⟨bs, hbs, h⟩ := bind_eq_ok.mp h
      obtain ⟨-, -, h⟩ := bind_eq_ok.mp h
      cases h
      exact forall_mem_mapM hr hitems hbs
  · exact absurd h mismatch_ne_ok

/-- A list is read if each of its items is. -/
theorem readList_map {α : Type} {r : Reader α} {f : α → Json} {n : Nat} (hn : 1 < n) {as : List α}
    (hr : ∀ a ∈ as, r ⟨true, n - 1⟩ (toDocument (f a)) = .ok a) :
    readList r ⟨true, n⟩ (toDocument (arr (as.map f))) = .ok as := by
  have hitems : (toDocuments (as.map f)).mapM (r ⟨true, n - 1⟩) = .ok as := by
    induction as with
    | nil => rfl
    | cons a as ih =>
      obtain ⟨hfirst, hrest⟩ := List.forall_mem_cons.mp hr
      rw [List.map_cons, toDocuments, List.mapM_cons]
      exact bind_eq_ok.mpr ⟨a, hfirst, bind_eq_ok.mpr ⟨as, ih hrest, rfl⟩⟩
  exact bind_eq_ok.mpr ⟨_, enter_text hn, bind_eq_ok.mpr ⟨_, hitems, rfl⟩⟩

theorem readEntries_wellFormed {d : Document} (hd : d.Sound) {n : Nat} {es : Entries Json}
    (h : readEntries ⟨true, n⟩ d = .ok es) : EntriesWellFormed (n - 1 - 1) es := by
  unfold readEntries at h
  split at h
  · cases hd with
    | object hentries =>
      obtain ⟨src, hsrc, h⟩ := bind_eq_ok.mp h
      obtain ⟨-, rfl⟩ := enter_eq_ok hsrc
      obtain ⟨fs, hfs, h⟩ := bind_eq_ok.mp h
      obtain ⟨-, -, h⟩ := bind_eq_ok.mp h
      cases h
      exact entriesWellFormed_sorted (readAnyEntries_wellFormed _ hentries hfs)
  · exact absurd h mismatch_ne_ok

theorem readEntries_obj {es : Entries Json} (hkeys : Entries.Ascending es) (he : ∀ e ∈ es, e.2.Ordered) {n : Nat}
    (hn : 1 < n) (hdepth : ∀ e ∈ es, e.2.depth < n - 1) :
    readEntries ⟨true, n⟩ (toDocument (obj es)) = .ok es := by
  refine bind_eq_ok.mpr ⟨_, enter_text hn, bind_eq_ok.mpr ⟨_, readAnyEntries_toEntries es he hdepth, ?_⟩⟩
  rw [Entries.sorted_of_ascending hkeys]
  rfl

/-! ### Records -/

/-- A tree all of whose items and entries have a property. -/
def Document.Parts (D : Document → Prop) : Document → Prop
  | .list items _ => ∀ d ∈ items, D d
  | .object entries _ => ∀ e ∈ entries, D e.2
  | _ => True

theorem Document.Sound.parts {d : Document} (h : d.Sound) : d.Parts Sound := by
  cases h with
  | list hitems => exact hitems
  | object hentries => exact hentries
  | _ => trivial

namespace RecordShape

variable {σ : Type} {shape : RecordShape σ} {P : σ → Prop} {D : Document → Prop} {src : Source}

theorem readObject_preserves
    (hfield : ∀ {r r' : σ} {name : String} {d : Document}, P r → D d →
      shape.readField r name src d = .ok r' → P r')
    {entries : List (StringContent × Document)} (he : ∀ e ∈ entries, D e.2)
    {seen seen' : List String} {r r' : σ} (hr : P r)
    (h : shape.readObject src seen r entries = .ok (seen', r')) : P r' := by
  induction entries generalizing seen r with
  | nil =>
    cases h
    exact hr
  | cons entry rest ih =>
    obtain ⟨k, d⟩ := entry
    obtain ⟨hfirst, hrest⟩ := List.forall_mem_cons.mp he
    rw [readObject] at h
    obtain ⟨key, -, h⟩ := bind_eq_ok.mp h
    split at h
    · split at h
      · cases h
      · obtain ⟨r₁, hr₁, h⟩ := bind_eq_ok.mp h
        exact ih hrest (hfield hr hfirst hr₁) h
    · obtain ⟨-, -, h⟩ := bind_eq_ok.mp h
      exact ih hrest hr h

theorem readItems_preserves
    (hfield : ∀ {r r' : σ} {name : String} {d : Document}, P r → D d →
      shape.readField r name src d = .ok r' → P r')
    {fields : List String} {items rest : List Document} (hi : ∀ d ∈ items, D d) {r r' : σ} (hr : P r)
    (h : shape.readItems src r fields items = .ok (r', rest)) : P r' := by
  induction fields generalizing items r with
  | nil =>
    cases h
    exact hr
  | cons field fields ih =>
    cases items with
    | nil =>
      cases h
      exact hr
    | cons d items =>
      obtain ⟨hfirst, hrest⟩ := List.forall_mem_cons.mp hi
      rw [readItems] at h
      obtain ⟨r₁, hr₁, h⟩ := bind_eq_ok.mp h
      exact ih hrest (hfield hr hfirst hr₁) h

/-- What an empty record satisfies and reading a field keeps, every record satisfies. -/
theorem read_preserves (hempty : P shape.empty)
    (hfield : ∀ {inner : Source} {r r' : σ} {name : String} {d : Document}, src.enter = .ok inner → P r → D d →
      shape.readField r name inner d = .ok r' → P r')
    {d : Document} (hd : d.Parts D) {r : σ} (h : shape.read src d = .ok r) : P r := by
  unfold read at h
  split at h
  · obtain ⟨inner, hinner, h⟩ := bind_eq_ok.mp h
    obtain ⟨⟨seen, record⟩, hrecord, h⟩ := bind_eq_ok.mp h
    obtain ⟨-, -, h⟩ := bind_eq_ok.mp h
    have hP := readObject_preserves (fun hr hd h => hfield hinner hr hd h) hd hempty hrecord
    split at h
    · cases h
    · cases h
      exact hP
  · obtain ⟨inner, hinner, h⟩ := bind_eq_ok.mp h
    obtain ⟨⟨record, rest⟩, hrecord, h⟩ := bind_eq_ok.mp h
    have hP := readItems_preserves (fun hr hd h => hfield hinner hr hd h) hd hempty hrecord
    simp only at h
    split at h
    · obtain ⟨-, -, h⟩ := bind_eq_ok.mp h
      split at h
      · cases h
      · cases h
        exact hP
    · obtain ⟨-, -, h⟩ := bind_eq_ok.mp h
      cases h
      exact hP
  · exact absurd h mismatch_ne_ok

/-- Reading the entries of an object, of which the first is a field's. -/
theorem readObject_cons {src : Source} {seen : List String} {key : String} {r r' : σ} {d : Document}
    {rest : List (StringContent × Document)} (hkey : shape.fields.contains key = true)
    (hseen : seen.contains key = false) (h : shape.readField r key src d = .ok r') :
    shape.readObject src seen r ((.ok key, d) :: rest) = shape.readObject src (key :: seen) r' rest := by
  rw [readObject]
  simp only [content, bind, Except.bind, hkey, hseen, h, if_true, Bool.false_eq_true, if_false]

/-- A record that the entries of an object make. -/
theorem read_object {n : Nat} (hn : 1 < n) {entries : List (StringContent × Document)} (seen : List String)
    {r : σ} (h : shape.readObject ⟨true, n - 1⟩ [] shape.empty entries = .ok (seen, r))
    (habsent : shape.absent? seen = none) : shape.read ⟨true, n⟩ (.object entries none) = .ok r := by
  refine bind_eq_ok.mpr ⟨_, enter_text hn, bind_eq_ok.mpr ⟨_, h, bind_eq_ok.mpr ⟨(), rfl, ?_⟩⟩⟩
  simp only [habsent]
  rfl

end RecordShape
end Json
end Catalogue
