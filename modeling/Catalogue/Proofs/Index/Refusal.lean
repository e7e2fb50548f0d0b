import Catalogue.Proofs.Index.Form
import Catalogue.Proofs.Index.Joins
import Catalogue.Proofs.Index.Placeholders

/-! Which plans are refused, why, and what is joined for the others. Years are compared as one year or as a
range, all else as texts; a filter that asks otherwise is refused (`Filter.Refused`), and nothing else is. A
plan has no statement exactly if one of its filters is refused, and then the first of them is named
(`conditionsFrom_eq_error`). The statement of a plan joins the tables that its filters look at, each once,
and its text joins the same (`joined_sql`). `ofPlan_refuses` has all of this. -/
namespace Catalogue

open Index

/-! ### Filters -/

/-- A filter that asks for what its field cannot be compared by: a part of a year or one of several years, or a range
of anything but years. -/
def Filter.Refused (f : Filter) : Prop :=
  f.field = .year ∧ (f.op = .contains ∨ f.op = .oneOf) ∨ f.field ≠ .year ∧ f.op = .range

theorem Filter.refused_iff {f : Filter} : f.Refused ↔ ¬f.Supported := by
  unfold Refused Supported
  split <;> cases f.op <;> simp [*]

namespace Index

/-! ### The filter that is named -/

/-- The first of some filters that is refused is at this position, and has this field and operator. -/
structure Unsupported.NamesFirst (e : Unsupported) (fs : List Filter) : Prop where
  filter : ∃ f, fs[e.position]? = some f ∧ f.Refused ∧ e.field = f.field ∧ e.op = f.op
  first : ∀ i < e.position, ∀ f, fs[i]? = some f → ¬f.Refused

namespace Unsupported

variable {e : Unsupported} {f : Filter} {rest : List Filter}

theorem not_namesFirst_nil : ¬e.NamesFirst [] := by
  rintro ⟨⟨_, hf, -⟩, -⟩
  cases hf

/-- A first filter that is refused is named, and no later one. -/
theorem namesFirst_of_refused (h : f.Refused) : e.NamesFirst (f :: rest) ↔ e = ⟨0, f.field, f.op⟩ := by
  constructor
  · rintro ⟨⟨g, hg, -, hfield, hop⟩, hfirst⟩
    obtain ⟨position, field, op⟩ := e
    obtain rfl : position = 0 := by
      by_contra hne
      exact hfirst 0 (Nat.pos_of_ne_zero hne) f rfl h
    obtain rfl : f = g := Option.some.inj hg
    simp only at hfield hop
    rw [hfield, hop]
  · rintro rfl
    exact ⟨⟨f, rfl, h, rfl, rfl⟩, fun k hk => absurd hk (Nat.not_lt_zero k)⟩

/-- Behind a filter that is not refused, the first of the others is named. -/
theorem namesFirst_of_kept (h : ¬f.Refused) :
    e.NamesFirst (f :: rest) ↔ ∃ j, e.position = j + 1 ∧ NamesFirst ⟨j, e.field, e.op⟩ rest := by
  obtain ⟨position, field, op⟩ := e
  constructor
  · rintro ⟨⟨g, hg, hrefused, hnames⟩, hfirst⟩
    cases position with
    | zero => exact absurd (Option.some.inj hg ▸ hrefused) h
    | succ j => exact ⟨j, rfl, ⟨g, hg, hrefused, hnames⟩, fun k hk => hfirst (k + 1) (Nat.succ_lt_succ hk)⟩
  · rintro ⟨j, rfl, ⟨g, hg, hrefused, hnames⟩, hfirst⟩
    refine ⟨⟨g, hg, hrefused, hnames⟩, fun k hk f' hf' => ?_⟩
    cases k with
    | zero => exact Option.some.inj hf' ▸ h
    | succ k => exact hfirst k (Nat.lt_of_succ_lt_succ hk) f' hf'

end Unsupported

/-- Of filters that keep their rules, the first of which has position `i`, one is named exactly if it is the first that
is refused. -/
theorem conditionsFrom_eq_error {i : Nat} {fs : List Filter} (h : ∀ f ∈ fs, f.Valid) {e : Unsupported} :
    conditionsFrom i fs = .error e ↔
      ∃ j, e.position = i + j ∧ Unsupported.NamesFirst ⟨j, e.field, e.op⟩ fs := by
  induction fs generalizing i with
  | nil => exact iff_of_false nofun fun ⟨_, _, hnamed⟩ => Unsupported.not_namesFirst_nil hnamed
  | cons f rest ih =>
    obtain ⟨hf, hrest⟩ := List.forall_mem_cons.mp h
    have hsupported : (condition? i f).isSome ↔ ¬f.Refused := by
      rw [isSome_condition? i hf, Filter.refused_iff, not_not]
    cases hc : condition? i f with
    | none =>
      have hrefused : f.Refused := by simpa [hc] using hsupported
      obtain ⟨position, field, op⟩ := e
      rw [conditionsFrom_of_none hc]
      simp only [Unsupported.namesFirst_of_refused hrefused, Except.error.injEq, Unsupported.mk.injEq]
      constructor
      · rintro ⟨rfl, rfl, rfl⟩
        exact ⟨0, rfl, rfl, rfl, rfl⟩
      · rintro ⟨_, hposition, rfl, rfl, rfl⟩
        exact ⟨hposition.symm, rfl, rfl⟩
    | some b =>
      have hkept : ¬f.Refused := hsupported.mp (by rw [hc]; rfl)
      have hlater : conditionsFrom i (f :: rest) = .error e ↔ conditionsFrom (i + 1) rest = .error e := by
        rw [conditionsFrom_of_some hc]
        cases conditionsFrom (i + 1) rest <;> simp [Except.map]
      rw [hlater, ih hrest]
      simp only [Unsupported.namesFirst_of_kept hkept]
      constructor
      · rintro ⟨j, hj, hnamed⟩
        exact ⟨j + 1, by omega, j, rfl, hnamed⟩
      · rintro ⟨_, hj, j, rfl, hnamed⟩
        exact ⟨j, by omega, hnamed⟩

namespace Statement

theorem ofPlan_eq_error {p : Plan} (h : ∀ f ∈ p.filters, f.Valid) {e : Unsupported} :
    ofPlan p = .error e ↔ e.NamesFirst p.filters := by
  have hconditions : ofPlan p = .error e ↔ conditionsFrom 0 p.filters = .error e := by
    unfold ofPlan
    cases conditionsFrom 0 p.filters <;> simp [Except.map]
  rw [hconditions, conditionsFrom_eq_error h]
  constructor
  · rintro ⟨j, hj, hnamed⟩
    obtain rfl : e.position = j := hj.trans (Nat.zero_add j)
    exact hnamed
  · exact fun hnamed => ⟨e.position, (Nat.zero_add _).symm, hnamed⟩

/-- A plan has no statement exactly if one of its filters is refused. -/
theorem exists_error_iff {p : Plan} (h : ∀ f ∈ p.filters, f.Valid) :
    (∃ e, ofPlan p = .error e) ↔ ∃ f ∈ p.filters, f.Refused := by
  have htranslates := translates_iff h
  unfold Plan.Translates at htranslates
  simp only [Filter.refused_iff]
  cases hs : ofPlan p with
  | ok s => simpa [hs] using htranslates
  | error e => simpa [hs] using htranslates

/-! ### What a text joins -/

/-- The word that names a table to join, with the space after it. -/
def joinWord : List Char := ['J', 'O', 'I', 'N', ' ']

/-- The names that follow the word, in the text of a statement. -/
def joinedIn : List Char → List String
  | [] => []
  | c :: rest =>
    if joinWord.isPrefixOf (c :: rest) then
      String.ofList (((c :: rest).drop joinWord.length).takeWhile (· != ' ')) :: joinedIn rest
    else joinedIn rest

/-- The names of the tables that a text joins. -/
def joined (text : String) : List String := joinedIn text.toList

/-- A text joins these tables, whatever follows it. -/
def Joins (names : List String) (text : String) : Prop :=
  ∀ rest, joinedIn (text.toList ++ rest) = names ++ joinedIn rest

theorem joinedIn_append {s : List Char} (h : 'J' ∉ s) (rest : List Char) : joinedIn (s ++ rest) = joinedIn rest := by
  induction s with
  | nil => rfl
  | cons c s ih =>
    rw [List.mem_cons, not_or] at h
    have hword : joinWord.isPrefixOf (c :: (s ++ rest)) = false := by simp [joinWord, List.isPrefixOf, h.1]
    rw [List.cons_append, joinedIn, hword, if_neg Bool.false_ne_true, ih h.2]

/-- The word names what follows it up to a space. -/
theorem joinedIn_word {name : List Char} (hname : 'J' ∉ name) (hspace : ' ' ∉ name) (rest : List Char) :
    joinedIn (joinWord ++ (name ++ ' ' :: rest)) = String.ofList name :: joinedIn rest := by
  have hwhole : (name ++ ' ' :: rest).takeWhile (· != ' ') = name := by
    rw [List.takeWhile_append_of_pos fun c hc => by simpa using fun h : c = ' ' => hspace (h ▸ hc)]
    simp
  have hrest : joinedIn (['O', 'I', 'N', ' '] ++ (name ++ ' ' :: rest)) = joinedIn rest := by
    have hafter : 'J' ∉ ['O', 'I', 'N', ' '] ++ (name ++ [' ']) := by simp [hname]
    simpa using joinedIn_append hafter rest
  show joinedIn ('J' :: (['O', 'I', 'N', ' '] ++ (name ++ ' ' :: rest))) = _
  rw [joinedIn, hrest, if_pos (by simp [joinWord, List.isPrefixOf])]
  exact congrArg (String.ofList · :: _) hwhole

theorem Joins.append {names more : List String} {s t : String} (hs : Joins names s) (ht : Joins more t) :
    Joins (names ++ more) (s ++ t) := by
  intro rest
  rw [String.toList_append, List.append_assoc, hs, ht, List.append_assoc]

/-- A text without the letter that the word begins with joins nothing. -/
theorem joins_of_lacks {t : String} (h : Lacks 'J' t) : Joins [] t := joinedIn_append h

theorem Joins.followed {names : List String} {s t : String} (hs : Joins names s) (ht : Lacks 'J' t) :
    Joins names (s ++ t) := by
  have hboth := hs.append (joins_of_lacks ht)
  rwa [List.append_nil] at hboth

theorem joins_joinText (t : Table) : Joins [t.name] (joinText t) := by
  intro rest
  have hname : 'J' ∉ t.name.toList ∧ ' ' ∉ t.name.toList := by cases t <;> decide
  have hwords : (joinText t).toList ++ rest = [' ', ' ', ' ', ' '] ++ (joinWord ++ (t.name.toList ++ ' ' ::
      (['O', 'N', ' '] ++ t.name.toList ++ ".record_id = records.id\n".toList ++ rest))) := by
    simp [joinText, joinWord]
  have htail : 'J' ∉ ['O', 'N', ' '] ++ t.name.toList ++ ".record_id = records.id\n".toList := by
    cases t <;> decide
  rw [hwords, joinedIn_append (by decide), joinedIn_word hname.1 hname.2, joinedIn_append htail, String.ofList_toList]
  rfl

theorem joins_joinTexts (tables : List Table) :
    Joins (tables.map Table.name) (String.join (tables.map joinText)) := by
  induction tables with
  | nil => exact fun rest => rfl
  | cons t tables ih =>
    rw [List.map_cons, List.map_cons, String.join_cons]
    exact (joins_joinText t).append ih

/-! ### What else a text has -/

theorem join_rare : 'J' ∈ rare := by decide

theorem joinless_decimalDigits (i : Nat) : 'J' ∉ Number.decimalDigits i :=
  fun h => absurd (isDigit_decimalDigits i _ h) (by decide)

theorem lacks_parameterName (i : Nat) : Lacks 'J' (parameterName i) := by
  rw [Lacks, toList_parameterName]
  simp [joinless_decimalDigits]

theorem lacks_memberName (i j : Nat) : Lacks 'J' (memberName i j) := by
  rw [Lacks, toList_memberName]
  simp [joinless_decimalDigits]

/-- What a template for columns puts around them is all that their condition can have besides. -/
theorem lacks_anyColumn {columns : List ColumnText} {template : String → String}
    (h : ∀ c ∈ columns, Lacks 'J' (template c.sql)) : Lacks 'J' (anyColumn columns template) := by
  unfold anyColumn
  split
  · exact h _ (List.mem_singleton_self _)
  · refine Lacks.append (Lacks.append (by decide) (.intercalate (by decide) fun text htext => ?_)) (by decide)
    obtain ⟨c, hc, rfl⟩ := List.mem_map.mp htext
    exact h c hc

theorem lacks_overlaps (t : Table) {first last : String} (hfirst : Lacks 'J' first) (hlast : Lacks 'J' last) :
    Lacks 'J' ((Test.overlaps first last).sql t) := by
  have hbegin : Lacks 'J' (t.name ++ ".date_end >= " ++ first) := ((lacks_name join_rare t).append (by decide)).append hfirst
  have hboth := (hbegin.append (by decide : Lacks 'J' " AND ")).append (lacks_name join_rare t)
  exact (hboth.append (by decide : Lacks 'J' ".date_start <= ")).append hlast

theorem lacks_found (t : Table) {search : String} (h : Lacks 'J' search) : Lacks 'J' ((Test.found search).sql t) := by
  have hindex : Lacks 'J' (t.name ++ ".id IN (SELECT rowid FROM " ++ t.fullTextName ++ " WHERE ") :=
    (((lacks_name join_rare t).append (by decide)).append (lacks_fullTextName join_rare t)).append (by decide)
  have hmatch := (hindex.append (lacks_fullTextName join_rare t)).append (by decide : Lacks 'J' " MATCH ")
  exact (hmatch.append h).append (by decide)

theorem lacks_equals {columns : List ColumnText} (hcolumns : ∀ c ∈ columns, Lacks 'J' c.sql) (t : Table)
    {names : List String} (hnames : ∀ n ∈ names, Lacks 'J' n) : Lacks 'J' ((Test.equals columns names).sql t) := by
  refine .intercalate (by decide) fun text htext => ?_
  obtain ⟨n, hn, rfl⟩ := List.mem_map.mp htext
  exact lacks_anyColumn fun c hc => ((hcolumns c hc).append (by decide)).append (hnames n hn)

/-- The condition of a filter joins nothing. -/
theorem lacks_condition? {i : Nat} {f : Filter} {b : BoundCondition} (h : condition? i f = some b) :
    Lacks 'J' b.condition.sql := by
  have htest : Lacks 'J' (b.condition.test.sql b.condition.table) := by
    cases condition?_eq_some.mp h with
    | years => exact lacks_overlaps _ (lacks_memberName i 0) (lacks_memberName i 1)
    | year => exact lacks_overlaps _ (lacks_parameterName i) (lacks_parameterName i)
    | equals htarget =>
      exact lacks_equals (lacks_columnTexts join_rare htarget) _ (List.forall_mem_singleton.mpr (lacks_parameterName i))
    | found => exact lacks_found _ (lacks_parameterName i)
    | like htarget =>
      exact lacks_anyColumn fun c hc =>
        (((lacks_columnTexts join_rare htarget c hc).append (by decide)).append (lacks_parameterName i)).append (by decide)
    | oneOf htarget =>
      refine lacks_equals (lacks_columnTexts join_rare htarget) _ fun n hn => ?_
      rw [names_members] at hn
      obtain ⟨j, -, rfl⟩ := List.mem_map.mp hn
      exact lacks_memberName i j
  have hopen : Lacks 'J' (if b.condition.negate then "NOT (" else "(") := by split <;> decide
  exact (hopen.append htest).append (by decide)

end Statement

/-- The text of a plan's statement joins the tables that the statement joins, each as often and in their order. -/
theorem StatementOf.joined_sql {p : Plan} {s : Statement} {bs : List BoundCondition} (h : StatementOf p s bs) :
    Statement.joined s.sql = s.tables.map Table.name := by
  have hhead : Lacks 'J' ("WITH matched AS (\n" ++ "    SELECT " ++
      ",\n           ".intercalate (Statement.innerColumns s.tables) ++ "\n" ++ "    FROM records\n") :=
    (((Lacks.append (by decide) (by decide)).append
      (.intercalate (by decide) (Statement.lacks_innerColumns Statement.join_rare s.tables))).append (by decide)).append (by decide)
  have hwhere : Lacks 'J' (Statement.whereText s.conditions) := by
    unfold Statement.whereText
    split
    · decide
    · refine (Lacks.append (by decide) (.intercalate (by decide) fun text htext => ?_)).append (by decide)
      obtain ⟨c, hc, rfl⟩ := List.mem_map.mp htext
      rw [h.conditions] at hc
      obtain ⟨b, hb, rfl⟩ := List.mem_map.mp hc
      obtain ⟨i, f, -, hf⟩ := h.filter_of_mem hb
      exact Statement.lacks_condition? hf
  have hresult : Lacks 'J' (", ".intercalate s.resultColumns) :=
    .intercalate (by decide) (Statement.lacks_resultColumns Statement.join_rare s)
  have hlimit : Lacks 'J' (if s.limited then "\nLIMIT " ++ limitName else "") := by split <;> decide
  have hjoins := (Statement.joins_of_lacks hhead).append (Statement.joins_joinTexts s.tables)
  have hconditions := (hjoins.followed hwhere).followed (by decide : Lacks 'J' ")\n")
  have hselected := (hconditions.followed (by decide : Lacks 'J' "SELECT ")).followed hresult
  have hended := hselected.followed (by decide : Lacks 'J' "\n")
  have hsorted := hended.followed (by decide : Lacks 'J' "FROM matched\nWHERE match_rank = 1\nORDER BY record_id ASC")
  have hwhole := (hsorted.followed hlimit) []
  rw [List.append_nil] at hwhole
  exact hwhole.trans (List.append_nil _)

/-! ### Statements -/

/-- What a plan's statement joins. -/
structure Statement.JoinsTargets (p : Plan) (s : Statement) : Prop where
  ordered : s.tables.Sublist Table.all
  nodup : s.tables.Nodup
  targets : ∀ t, t ∈ s.tables ↔ ∃ f ∈ p.filters, f.table = t
  /-- The text names each of the tables after a word of its own, and no others. -/
  text : Statement.joined s.sql = s.tables.map Table.name

theorem joinsTargets_ofPlan {p : Plan} {s : Statement} (h : Statement.ofPlan p = .ok s) : s.JoinsTargets p := by
  obtain ⟨bs, hs⟩ := statementOf_ofPlan h
  refine ⟨?_, ?_, fun t => ?_, hs.joined_sql⟩
  · rw [hs.tables_eq]
    exact List.filter_sublist
  · rw [hs.tables_eq]
    exact p.nodup_tables
  · rw [hs.tables_eq, Plan.mem_tables]

namespace Statement

/-- A plan whose filters keep their rules is refused exactly if one of its filters is, and the first of those is named
with its field and operator. Soft filters are not looked at, and years that are compared as one are always read. The
statement of a plan that is not refused joins the tables that its filters look at, each once. -/
theorem ofPlan_refuses {p : Plan} (h : ∀ f ∈ p.filters, f.Valid) :
    ((∃ e, ofPlan p = .error e) ↔ ∃ f ∈ p.filters, f.Refused) ∧
    (∀ e, ofPlan p = .error e ↔ e.NamesFirst p.filters) ∧
    (∀ soft, ofPlan { p with softFilters := soft } = ofPlan p) ∧
    (∀ f ∈ p.filters, f.field = .year → f.op = .equals →
      ∃ s n, f.value = .text s ∧ Number.parseInt64? (Text.trim s) = some n) ∧
    ∀ s, ofPlan p = .ok s → s.JoinsTargets p :=
  ⟨exists_error_iff h, fun _ => ofPlan_eq_error h, fun _ => rfl, fun f hf => (h f hf).year,
    fun _ => joinsTargets_ofPlan⟩

/-- A plan of a place, a year and other filters. -/
def yearPlan (others : List Filter) : Plan :=
  { Plan.ofText "" with
    filters := [⟨.place, .contains, .text "paris", false, none, none⟩,
      ⟨.year, .equals, .text "-0550", true, none, none⟩] ++ others
    softFilters := [⟨.title, .range, .range 1 2, false, none, none⟩] }

theorem valid_yearPlan {others : List Filter} (h : ∀ f ∈ others, f.Valid) : ∀ f ∈ (yearPlan others).filters, f.Valid := by
  have hplace : Filter.Trimmed "paris" := by unfold Filter.Trimmed; decide +kernel
  have hyear : Filter.Trimmed "-0550" := by unfold Filter.Trimmed; decide +kernel
  intro f hf
  rcases List.mem_append.mp hf with hf | hf
  · simp only [List.mem_cons, List.not_mem_nil, or_false] at hf
    rcases hf with rfl | rfl
    · exact ⟨hplace, nofun⟩
    · exact ⟨⟨hyear, fun _ => by decide +kernel⟩, nofun⟩
  · exact h f hf

/-- Of two filters that are refused the first is named. Without them the text joins imprints once, though two filters
look at them, and a title that says so joins nothing. -/
theorem ofPlan_refuses_second :
    let part : Filter := ⟨.year, .contains, .text "155", false, none, none⟩
    let titles : Filter := ⟨.title, .range, .range 1 2, false, none, none⟩
    let found : Filter := ⟨.title, .contains, .text "fables JOIN agents", false, none, none⟩
    ofPlan (yearPlan [found, part, titles]) = .error ⟨3, .year, .contains⟩ ∧
    ∃ s, ofPlan (yearPlan [found]) = .ok s ∧ joined s.sql = ["imprints", "titles"] := by
  intro part titles found
  have hpart : part.Valid := ⟨by unfold Filter.ValueFits Filter.Trimmed; decide +kernel, nofun⟩
  have htitles : titles.Valid := ⟨by unfold Filter.ValueFits; decide, nofun⟩
  have hfound : found.Valid := ⟨by unfold Filter.ValueFits Filter.Trimmed; decide +kernel, nofun⟩
  have hrefused := ofPlan_refuses (p := yearPlan [found, part, titles]) (valid_yearPlan (by simp [hfound, hpart, htitles]))
  have hkept := ofPlan_refuses (p := yearPlan [found]) (valid_yearPlan (by simp [hfound]))
  constructor
  · refine (hrefused.2.1 _).mpr ⟨⟨part, rfl, .inl ⟨rfl, .inl rfl⟩, rfl, rfl⟩, fun i hi f hf => ?_⟩
    -- Each of the three filters before it is compared by what its field can be compared by.
    obtain rfl | rfl | rfl : i = 0 ∨ i = 1 ∨ i = 2 := by
      have : i < 3 := hi
      omega
    all_goals
      cases hf
      simp [Filter.Refused]
  · obtain ⟨s, hs⟩ : ∃ s, ofPlan (yearPlan [found]) = .ok s := ⟨_, rfl⟩
    obtain ⟨bs, hof⟩ := statementOf_ofPlan hs
    refine ⟨s, hs, (hkept.2.2.2.2 s hs).text.trans ?_⟩
    rw [hof.tables_eq]
    rfl

end Statement
end Index
end Catalogue
