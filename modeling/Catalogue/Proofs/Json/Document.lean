import Catalogue.Json.Decode
import Catalogue.Proofs.Entries
import Catalogue.Proofs.Json.Scan

/-! Values and their texts. The machine that builds trees is taken through the compact
text of a value to the value's own tree (`read_compact`), which reads as the value again
if it is not nested too deep (`readAny_toDocument`). -/
namespace Catalogue

open Json

namespace Json

/-! ### Values that have a text -/

/-- A value whose integers are of 64 bits and whose other numbers are finite. -/
inductive Writable : Json → Prop where
  | null : Writable null
  | bool (b : Bool) : Writable (bool b)
  | int {n : Int} (h : Word n) : Writable (int n)
  | float {x : Number.Binary64} (h : x.isFinite) : Writable (float x)
  | str (s : String) : Writable (str s)
  | arr {items : List Json} (h : ∀ v ∈ items, Writable v) : Writable (arr items)
  | obj {entries : List (String × Json)} (h : ∀ e ∈ entries, Writable e.2) : Writable (obj entries)

/-- A value in whose objects the keys ascend. -/
inductive Ordered : Json → Prop where
  | null : Ordered null
  | bool (b : Bool) : Ordered (bool b)
  | int (n : Int) : Ordered (int n)
  | float (x : Number.Binary64) : Ordered (float x)
  | str (s : String) : Ordered (str s)
  | arr {items : List Json} (h : ∀ v ∈ items, Ordered v) : Ordered (arr items)
  | obj {entries : List (String × Json)} (hkeys : Entries.Ascending entries)
      (h : ∀ e ∈ entries, Ordered e.2) : Ordered (obj entries)

/-- A value as it is held in memory. -/
structure WellFormed (v : Json) : Prop where
  writable : v.Writable
  ordered : v.Ordered

mutual

/-- How deep lists and objects are nested in a value. -/
def depth : Json → Nat
  | arr items => depthItems items + 1
  | obj entries => depthEntries entries + 1
  | _ => 0

def depthItems : List Json → Nat
  | [] => 0
  | v :: rest => max (depth v) (depthItems rest)

def depthEntries : List (String × Json) → Nat
  | [] => 0
  | (_, v) :: rest => max (depth v) (depthEntries rest)

end

theorem depthItems_le_iff {items : List Json} {n : Nat} : depthItems items ≤ n ↔ ∀ v ∈ items, v.depth ≤ n := by
  induction items with
  | nil => simp [depthItems]
  | cons v rest ih => simp [depthItems, ih]

theorem depthEntries_le_iff {entries : List (String × Json)} {n : Nat} :
    depthEntries entries ≤ n ↔ ∀ e ∈ entries, e.2.depth ≤ n := by
  induction entries with
  | nil => simp [depthEntries]
  | cons e rest ih =>
    obtain ⟨k, v⟩ := e
    rw [depthEntries, max_le_iff, ih, List.forall_mem_cons]

theorem depth_arr_le_iff {items : List Json} {n : Nat} :
    (arr items).depth ≤ n + 1 ↔ ∀ v ∈ items, v.depth ≤ n := by
  rw [depth, Nat.add_le_add_iff_right, depthItems_le_iff]

theorem depth_obj_le_iff {entries : List (String × Json)} {n : Nat} :
    (obj entries).depth ≤ n + 1 ↔ ∀ e ∈ entries, e.2.depth ≤ n := by
  rw [depth, Nat.add_le_add_iff_right, depthEntries_le_iff]

/-! ### From the text to the tree -/

theorem build_next {stage stage' : Stage} {stack stack' : List Frame} {t : Token} (ts : List Token)
    (h : move stage stack t = .next stage' stack') : build stage stack (t :: ts) = build stage' stack' ts := by
  rw [build, h]

theorem build_itemsEnd (v : Document) (items : List Document) (stack : List Frame) (ts : List Token) :
    build (.after v) (.list items :: stack) (.closeList :: ts) =
      build (.after (.list (items.reverse ++ [v]) none)) stack ts := by
  rw [← List.reverse_cons]
  exact build_next ts rfl

theorem build_nextItem (v : Document) (items : List Document) (stack : List Frame) (ts : List Token) :
    build (.after v) (.list items :: stack) (.comma :: ts) = build .value (.list (v :: items) :: stack) ts :=
  build_next ts rfl

theorem build_entriesEnd (v : Document) (entries : List (StringContent × Document)) (key : StringContent)
    (stack : List Frame) (ts : List Token) :
    build (.after v) (.object entries key :: stack) (.closeObject :: ts) =
      build (.after (.object (entries.reverse ++ [(key, v)]) none)) stack ts := by
  rw [← List.reverse_cons]
  exact build_next ts rfl

theorem build_nextEntry (v : Document) (entries : List (StringContent × Document)) (key : StringContent)
    (stack : List Frame) (ts : List Token) :
    build (.after v) (.object entries key :: stack) (.comma :: ts) =
      build (.nextKey ((key, v) :: entries)) stack ts :=
  build_next ts rfl

/-- A stage at which a value may begin that is then followed on this stack. -/
def Awaits (stage : Stage) (below stack : List Frame) : Prop :=
  ∀ t : Token, t ≠ .closeList → move stage below t = startValue (.of .expectedValue) stack t

theorem awaits_value (stack : List Frame) : Awaits .value stack stack := by
  intro t ht
  cases stack with
  | nil => rfl
  | cons frame below => cases frame <;> cases t <;> first | rfl | exact absurd rfl ht

theorem awaits_firstItem (stack : List Frame) : Awaits .firstItem stack (.list [] :: stack) := by
  intro t ht
  cases t <;> first | rfl | exact absurd rfl ht

/-- A stage at which the key of an object may begin that holds these entries. -/
def AwaitsKey (stage : Stage) (entries : List (StringContent × Document)) (stack : List Frame) : Prop :=
  ∀ s : StringContent, move stage stack (.string s) = .next (.colon entries s) stack

theorem awaitsKey_firstKey (stack : List Frame) : AwaitsKey .firstKey [] stack := fun _ => rfl

theorem awaitsKey_nextKey (entries : List (StringContent × Document)) (stack : List Frame) :
    AwaitsKey (.nextKey entries) entries stack := fun _ => rfl

theorem delimited_cons {c : Char} (rest : List Char) (hdigit : isDigit c = false) (hpoint : c ≠ '.')
    (he : c ≠ 'e') (hE : c ≠ 'E') : Delimited (c :: rest) := by
  intro d hd
  obtain rfl : c = d := Option.some.inj hd
  exact ⟨hdigit, hpoint, he, hE⟩

theorem delimited_comma (rest : List Char) : Delimited (',' :: rest) :=
  delimited_cons rest rfl (by decide) (by decide) (by decide)

theorem delimited_closeList (rest : List Char) : Delimited (']' :: rest) :=
  delimited_cons rest rfl (by decide) (by decide) (by decide)

theorem delimited_closeObject (rest : List Char) : Delimited ('\x7d' :: rest) :=
  delimited_cons rest rfl (by decide) (by decide) (by decide)

mutual

/-- The machine goes through a value's text to the value's tree. -/
theorem build_compactChars (v : Json) (hv : v.Writable) {stage : Stage} {below stack : List Frame}
    (hs : Awaits stage below stack) {rest : List Char} (hr : Delimited rest) :
    build stage below (tokens (compactChars v ++ rest)) = build (.after (toDocument v)) stack (tokens rest) := by
  cases hv with
  | null =>
    rw [compactChars, tokens_nullText]
    exact build_next _ (hs .null (by nofun))
  | bool b =>
    rw [compactChars, tokens_boolText]
    exact build_next _ (hs (.bool b) (by nofun))
  | int h =>
    rw [compactChars, tokens_intText h hr]
    exact build_next _ (hs (.number _) (by nofun))
  | float h =>
    rw [compactChars, tokens_interchangeText h hr]
    exact build_next _ (hs (.number _) (by nofun))
  | str s =>
    rw [compactChars, tokens_stringText]
    exact build_next _ (hs (.string _) (by nofun))
  | @arr items h =>
    have htext : compactChars (.arr items) ++ rest = '[' :: (compactItems items ++ ']' :: rest) := by
      simp [compactChars]
    rw [htext, tokens_openList, build_next _ (hs .openList (by nofun))]
    by_cases hne : items = []
    · subst hne
      rw [compactItems, List.nil_append, tokens_closeList]
      exact build_next _ rfl
    · exact build_compactItems items hne h (awaits_firstItem stack)
  | @obj entries h =>
    have htext : compactChars (.obj entries) ++ rest = '\x7b' :: (compactEntries entries ++ '\x7d' :: rest) := by
      simp [compactChars]
    rw [htext, tokens_openObject, build_next _ (hs .openObject (by nofun))]
    by_cases hne : entries = []
    · subst hne
      rw [compactEntries, List.nil_append, tokens_closeObject]
      exact build_next _ rfl
    · exact build_compactEntries entries hne h (awaitsKey_firstKey stack)

theorem build_compactItems (items : List Json) (hne : items ≠ []) (hv : ∀ v ∈ items, v.Writable)
    {stage : Stage} {done : List Document} {below stack : List Frame}
    (hs : Awaits stage below (.list done :: stack)) {rest : List Char} :
    build stage below (tokens (compactItems items ++ ']' :: rest)) =
      build (.after (.list (done.reverse ++ toDocuments items) none)) stack (tokens rest) := by
  match items with
  | [] => exact absurd rfl hne
  | [v] =>
    have hfirst := hv v (List.mem_cons_self ..)
    rw [compactItems, build_compactChars v hfirst hs (delimited_closeList rest), tokens_closeList,
      build_itemsEnd]
    rfl
  | v :: w :: items =>
    have hfirst := hv v (List.mem_cons_self ..)
    have htext : compactItems (v :: w :: items) ++ ']' :: rest =
        compactChars v ++ ',' :: (compactItems (w :: items) ++ ']' :: rest) := by
      simp [compactItems]
    rw [htext, build_compactChars v hfirst hs (delimited_comma _), tokens_comma, build_nextItem,
      build_compactItems (w :: items) (List.cons_ne_nil _ _) (fun u hu => hv u (List.mem_cons_of_mem _ hu))
        (awaits_value _), List.reverse_cons, List.append_assoc]
    rfl

theorem build_compactEntries (entries : List (String × Json)) (hne : entries ≠ [])
    (hv : ∀ e ∈ entries, e.2.Writable) {stage : Stage} {done : List (StringContent × Document)}
    {stack : List Frame} (hs : AwaitsKey stage done stack) {rest : List Char} :
    build stage stack (tokens (compactEntries entries ++ '\x7d' :: rest)) =
      build (.after (.object (done.reverse ++ toEntries entries) none)) stack (tokens rest) := by
  have hkey (k : String) (more : List Char) : build stage stack (tokens (stringText k ++ ':' :: more)) =
      build .value (.object done (.ok k) :: stack) (tokens more) := by
    rw [tokens_stringText, build_next _ (hs _), tokens_colon]
    exact build_next _ rfl
  match entries with
  | [] => exact absurd rfl hne
  | [(k, v)] =>
    have hfirst := hv (k, v) (List.mem_cons_self ..)
    have htext : compactEntries [(k, v)] ++ '\x7d' :: rest =
        stringText k ++ ':' :: (compactChars v ++ '\x7d' :: rest) := by
      simp [compactEntries]
    rw [htext, hkey, build_compactChars v hfirst (awaits_value _) (delimited_closeObject rest),
      tokens_closeObject, build_entriesEnd]
    rfl
  | (k, v) :: (j, w) :: entries =>
    have hfirst := hv (k, v) (List.mem_cons_self ..)
    have htext : compactEntries ((k, v) :: (j, w) :: entries) ++ '\x7d' :: rest =
        stringText k ++ ':' :: (compactChars v ++ ',' :: (compactEntries ((j, w) :: entries) ++ '\x7d' :: rest)) := by
      simp [compactEntries]
    rw [htext, hkey, build_compactChars v hfirst (awaits_value _) (delimited_comma _), tokens_comma,
      build_nextEntry, build_compactEntries ((j, w) :: entries) (List.cons_ne_nil _ _)
        (fun u hu => hv u (List.mem_cons_of_mem _ hu)) (awaitsKey_nextKey _ _),
      List.reverse_cons, List.append_assoc]
    rfl

end

/-- A value's compact text is that of its tree. -/
theorem read_compact {v : Json} (hv : v.Writable) : Json.read v.compact.toList = (toDocument v, false) := by
  have hbuild := build_compactChars v hv (awaits_value []) delimited_nil
  rw [List.append_nil] at hbuild
  rw [compact, String.toList_ofList, Json.read, hbuild]
  rfl

/-- What is read from a value's compact text is what is read from the value. -/
theorem decode_compact {α : Type} {r : Reader α} {v : Json} (hv : v.Writable) :
    decode r v.compact = r .text (toDocument v) := by
  unfold decode
  rw [read_compact hv]
  cases hr : r .text (toDocument v) <;> simp only [hr] <;> rfl

/-! ### From the tree to the value -/

theorem enter_text {n : Nat} (h : 1 < n) : Source.enter ⟨true, n⟩ = .ok ⟨true, n - 1⟩ := by
  simp only [Source.enter, Bool.not_true, Bool.false_eq_true, if_false, if_neg (show ¬n ≤ 1 by omega)]

mutual

/-- A value's tree reads as the value. -/
theorem readAny_toDocument (v : Json) (hv : v.Ordered) {n : Nat} (hn : v.depth < n) :
    readAny ⟨true, n⟩ (toDocument v) = .ok v := by
  cases hv with
  | null => rfl
  | bool b => rfl
  | int n => rfl
  | float x => rfl
  | str s => rfl
  | @arr items h =>
    rw [depth] at hn
    have hitems := readAnyItems_toDocuments items h (n := n - 1) fun v hv => by
      have := depthItems_le_iff.mp (Nat.le_refl _) v hv
      omega
    rw [toDocument, readAny, enter_text (by omega)]
    simp only [bind, Except.bind, hitems, checkStop, pure, Except.pure]
  | @obj entries hkeys h =>
    rw [depth] at hn
    have hentries := readAnyEntries_toEntries entries h (n := n - 1) fun e he => by
      have := depthEntries_le_iff.mp (Nat.le_refl _) e he
      omega
    rw [toDocument, readAny, enter_text (by omega)]
    simp only [bind, Except.bind, hentries, checkStop, pure, Except.pure, object,
      Entries.sorted_of_ascending hkeys]

theorem readAnyItems_toDocuments (items : List Json) (hv : ∀ v ∈ items, v.Ordered) {n : Nat}
    (hn : ∀ v ∈ items, v.depth < n) : readAnyItems ⟨true, n⟩ (toDocuments items) = .ok items := by
  cases items with
  | nil => rfl
  | cons v rest =>
    have hfirst := readAny_toDocument v (hv v (List.mem_cons_self ..)) (hn v (List.mem_cons_self ..))
    have hrest := readAnyItems_toDocuments rest (fun w hw => hv w (List.mem_cons_of_mem _ hw))
      fun w hw => hn w (List.mem_cons_of_mem _ hw)
    rw [toDocuments, readAnyItems, hfirst, hrest]
    rfl

theorem readAnyEntries_toEntries (entries : List (String × Json)) (hv : ∀ e ∈ entries, e.2.Ordered)
    {n : Nat} (hn : ∀ e ∈ entries, e.2.depth < n) :
    readAnyEntries ⟨true, n⟩ (toEntries entries) = .ok entries := by
  cases entries with
  | nil => rfl
  | cons e rest =>
    obtain ⟨k, v⟩ := e
    have hfirst := readAny_toDocument v (hv (k, v) (List.mem_cons_self ..)) (hn (k, v) (List.mem_cons_self ..))
    have hrest := readAnyEntries_toEntries rest (fun w hw => hv w (List.mem_cons_of_mem _ hw))
      fun w hw => hn w (List.mem_cons_of_mem _ hw)
    rw [toEntries, readAnyEntries, hfirst, hrest]
    rfl

end

/-- A value's compact text is read as the value. -/
theorem parse_compact {v : Json} (h : v.WellFormed) (hdepth : v.depth ≤ 127) : parse v.compact = .ok v := by
  rw [parse, decode_compact h.writable]
  exact readAny_toDocument v h.ordered (Nat.lt_succ_of_le hdepth)

end Json
end Catalogue
