import Catalogue.Index.Description
import Catalogue.Proofs.Index.Order
import Mathlib.Data.List.Basic
import Mathlib.Data.List.Nodup

/-! What is in an index that descriptions were entered into. A row that can be entered goes to
the end of its table (`add?_eq`); a description whose key is new is entered as a record and
its rows, and one whose key is taken is refused (`describe?_cases`). So an index holds the
records and rows of the descriptions, in their order, and nothing else
(`entered_describeAll?`), and descriptions can all be entered exactly if their keys are
different (`isSome_describeAll?`). -/
namespace Catalogue.Index

/-! ### Numbers -/

theorem lt_nextId {ids : List Int} {n : Int} (h : n ∈ ids) : n < nextId ids := by
  have hfold (ms : List Int) (m : Int) : m ≤ ms.foldl max m ∧ ∀ k ∈ ms, k ≤ ms.foldl max m := by
    induction ms generalizing m with
    | nil => simp
    | cons k ms ih =>
      obtain ⟨hmax, hrest⟩ := ih (max m k)
      simp only [List.foldl_cons, List.mem_cons, forall_eq_or_imp]
      exact ⟨by omega, by omega, hrest⟩
  cases ids with
  | nil => cases h
  | cons m ms =>
    obtain ⟨hfirst, hrest⟩ := hfold ms m
    show n < ms.foldl max m + 1
    rcases List.mem_cons.mp h with rfl | h
    · omega
    · have := hrest n h
      omega

theorem insertById_last {α : Type} {id : α → Int} {a : α} {bs : List α} (h : ∀ b ∈ bs, id b ≤ id a) :
    insertById id a bs = bs ++ [a] := by
  induction bs with
  | nil => rfl
  | cons b rest ih =>
    obtain ⟨hb, hrest⟩ := List.forall_mem_cons.mp h
    rw [insertById, if_neg (Int.not_lt.mpr hb), ih hrest, List.cons_append]

/-- A value with the next number goes to the end. -/
theorem insertById_next {α : Type} (id : α → Int) {a : α} {bs : List α} (h : id a = nextId (bs.map id)) :
    insertById id a bs = bs ++ [a] :=
  insertById_last fun _ hb => h ▸ (lt_nextId (List.mem_map_of_mem hb)).le

/-! ### One row -/

@[simp] theorem rows_withRows (ix : Index) (t u : Table) (rows : List Row) :
    (ix.withRows t rows).rows u = if t = u then rows else ix.rows u := by
  cases t <;> cases u <;> rfl

@[simp] theorem lost_withRows (ix : Index) (t : Table) (rows : List Row) : (ix.withRows t rows).lost = ix.lost := by
  cases t <;> rfl

@[simp] theorem records_withRows (ix : Index) (t : Table) (rows : List Row) :
    (ix.withRows t rows).records = ix.records := by
  cases t <;> rfl

/-- The cells that a table stores for a row that is given. -/
def stored (t : Table) (given : Entries Cell) : Entries Cell :=
  t.columns.map fun c => (c.name, c.affinity.store ((given.get? c.name).getD c.default))

/-- Whether a row that is given can be entered, and is without a number: it has cells of the table's columns
only, and all that the table requires. -/
structure Enterable (t : Table) (given : Entries Cell) : Prop where
  named : (given.any fun e => e.1 != "id" && !t.columns.any (·.name == e.1)) = false
  unnumbered : given.get? "id" = none
  complete : ∀ c ∈ t.columns, c.required = true →
    (c.affinity.store ((given.get? c.name).getD c.default)).isNull = false

theorem mapM_cellFor? {t : Table} {given : Entries Cell} (h : Enterable t given) :
    t.columns.mapM (·.cellFor? given) = some (stored t given) := by
  have hcells (cs : List Column) (hcs : ∀ c ∈ cs, c ∈ t.columns) : cs.mapM (·.cellFor? given) =
      some (cs.map fun c => (c.name, c.affinity.store ((given.get? c.name).getD c.default))) := by
    induction cs with
    | nil => rfl
    | cons c rest ih =>
      obtain ⟨hc, hrest⟩ := List.forall_mem_cons.mp hcs
      have hcell : c.cellFor? given =
          some (c.name, c.affinity.store ((given.get? c.name).getD c.default)) := by
        unfold Column.cellFor?
        cases hrequired : c.required with
        | false => rfl
        | true => simp [h.complete c hc hrequired]
      rw [List.mapM_cons, hcell, ih hrest]
      rfl
  exact hcells t.columns fun _ => id

/-- A row that can be entered goes to the end of its table. -/
theorem add?_eq {ix : Index} (hix : ix.lost = []) {t : Table} {given : Entries Cell} (h : Enterable t given) :
    ix.add? t given =
      some (ix.withRows t (ix.rows t ++ [⟨nextId ((ix.rows t).map (·.id)), stored t given⟩])) := by
  have hhas (r : Relation) : ix.has r = true := by simp [has, hix]
  unfold add?
  simp only [hhas, h.named, h.unnumbered, mapM_cellFor? h, Bool.not_true, Bool.and_false, Bool.or_self,
    Bool.false_eq_true, if_false]
  show some (ix.withRows t (insertById _ ⟨nextId ((ix.rows t).map (·.id)), stored t given⟩ (ix.rows t))) = _
  rw [insertById_next (fun row : Row => row.id) rfl]

/-- The cells of a stored row. -/
theorem cell_stored {t : Table} {given : Entries Cell} {c : Column} (hc : c ∈ t.columns) {cells : Entries Cell}
    (h : cells = stored t given) (n : Int) :
    (⟨n, cells⟩ : Row).cell c.name = c.affinity.store ((given.get? c.name).getD c.default) := by
  have hnames : ∀ t : Table, (t.columns.map (·.name)).Nodup ∧ "id" ∉ t.columns.map (·.name) := by
    intro t
    cases t <;> decide
  have hid : c.name ≠ "id" := fun hid => (hnames t).2 (hid ▸ List.mem_map_of_mem hc)
  have hmem : (c.name, c.affinity.store ((given.get? c.name).getD c.default)) ∈ stored t given :=
    List.mem_map_of_mem hc
  have hnodup : ((stored t given).map (·.1)).Nodup := by
    rw [stored, List.map_map]
    exact (hnames t).1
  rw [Row.cell, if_neg hid, h, Entries.get?_of_mem hnodup hmem]
  rfl

/-! ### Several rows -/

/-- What a table stores of rows that are given, in their order. -/
def storedIn (t : Table) (rs : List (Table × Entries Cell)) : List (Entries Cell) :=
  (rs.filter (·.1 == t)).map fun r => stored t r.2

theorem mem_storedIn {t : Table} {rs : List (Table × Entries Cell)} {cells : Entries Cell} :
    cells ∈ storedIn t rs ↔ ∃ given, (t, given) ∈ rs ∧ cells = stored t given := by
  simp only [storedIn, List.mem_map, List.mem_filter, beq_iff_eq]
  constructor
  · rintro ⟨⟨u, given⟩, ⟨hr, rfl⟩, rfl⟩
    exact ⟨given, hr, rfl⟩
  · rintro ⟨given, hr, rfl⟩
    exact ⟨(t, given), ⟨hr, rfl⟩, rfl⟩

theorem storedIn_append (t : Table) (rs more : List (Table × Entries Cell)) :
    storedIn t (rs ++ more) = storedIn t rs ++ storedIn t more := by
  simp [storedIn]

/-- What entering a row adds to an index. -/
theorem add?_adds {ix : Index} (hix : ix.lost = []) {t : Table} {given : Entries Cell} (h : Enterable t given) :
    ∃ ix', ix.add? t given = some ix' ∧ ix'.lost = [] ∧ ix'.records = ix.records ∧
      ∀ u, (ix'.rows u).map (·.cells) = (ix.rows u).map (·.cells) ++ storedIn u [(t, given)] := by
  refine ⟨_, add?_eq hix h, (lost_withRows ..).trans hix, records_withRows .., fun u => ?_⟩
  rw [rows_withRows]
  by_cases hu : t = u
  · subst hu
    simp [storedIn]
  · simp [storedIn, hu]

/-- Rows that can be entered all are, each at the end of its table. -/
theorem addAll?_adds {ix : Index} (hix : ix.lost = []) {rs : List (Table × Entries Cell)}
    (h : ∀ r ∈ rs, Enterable r.1 r.2) : ∃ ix', ix.addAll? rs = some ix' ∧ ix'.lost = [] ∧
      ix'.records = ix.records ∧ ∀ t, (ix'.rows t).map (·.cells) = (ix.rows t).map (·.cells) ++ storedIn t rs := by
  induction rs generalizing ix with
  | nil => exact ⟨ix, rfl, hix, rfl, fun t => (List.append_nil _).symm⟩
  | cons r rest ih =>
    obtain ⟨hr, hrest⟩ := List.forall_mem_cons.mp h
    obtain ⟨next, hadd, hlost, hrecords, hrows⟩ := add?_adds hix hr
    obtain ⟨ix', hall, hlost', hrecords', hrows'⟩ := ih hlost hrest
    refine ⟨ix', ?_, hlost', hrecords'.trans hrecords, fun t => ?_⟩
    · rw [addAll?, List.foldlM_cons, hadd]
      exact hall
    · rw [hrows', hrows, List.append_assoc, ← storedIn_append, List.singleton_append]

/-! ### Records -/

theorem addRecord?_key (ix : Index) (hix : ix.lost = []) (key : String) : ix.addRecord? [("mms_id", .text key)] =
    if ix.records.any (·.key == .text key) then none
    else some (nextId (ix.records.map (·.id)),
      { ix with records := ix.records ++ [⟨nextId (ix.records.map (·.id)), .text key⟩] }) := by
  have hhas : ix.has .records = true := by simp [has, hix]
  have hnext : insertById (·.id) ⟨nextId (ix.records.map (·.id)), .text key⟩ ix.records =
      ix.records ++ [⟨nextId (ix.records.map (·.id)), .text key⟩] := insertById_next (fun r : Record => r.id) rfl
  rw [← hnext]
  unfold addRecord?
  rw [hhas]
  rfl

/-! ### Descriptions -/

/-- Every row of a description can be entered. -/
theorem enterable_of_mem_rows {record : Int} {d : Description} {r : Table × Entries Cell}
    (h : r ∈ d.rows record) : Enterable r.1 r.2 := by
  simp only [Description.rows, List.mem_append, List.mem_singleton, List.mem_map] at h
  rcases h with (((rfl | ⟨code, -, rfl⟩) | ⟨title, -, rfl⟩) | ⟨subject, -, rfl⟩) | ⟨agent, -, rfl⟩
  all_goals
    refine ⟨rfl, rfl, ?_⟩
    simp [Table.columns, Column.integer, Column.text, Column.real, Column.always, Column.defaulting]
  all_goals and_intros <;> rfl

/-- Every row of a description names its record. -/
theorem record_of_mem_rows {record : Int} {d : Description} {r : Table × Entries Cell}
    (h : r ∈ d.rows record) : r.2.get? "record_id" = some (.int record) := by
  simp only [Description.rows, List.mem_append, List.mem_singleton, List.mem_map] at h
  rcases h with (((rfl | ⟨code, -, rfl⟩) | ⟨title, -, rfl⟩) | ⟨subject, -, rfl⟩) | ⟨agent, -, rfl⟩
  all_goals rfl

/-- Whether an index holds descriptions under the numbers of their records, and nothing else. -/
structure Entered (ix : Index) (es : List (Int × Description)) : Prop where
  lost : ix.lost = []
  records : ix.records = es.map fun e => ⟨e.1, .text e.2.key⟩
  rows : ∀ t, (ix.rows t).map (·.cells) = storedIn t (es.flatMap fun e => e.2.rows e.1)
  numbers : (es.map (·.1)).Nodup
  keys : (es.map (·.2.key)).Nodup

theorem entered_empty : Entered empty [] := by
  refine ⟨rfl, rfl, fun t => ?_, .nil, .nil⟩
  cases t <;> rfl

/-- A description is entered if its key is new, and refused if it is taken. -/
theorem describe?_cases {ix : Index} {es : List (Int × Description)} (h : Entered ix es) (d : Description) :
    (d.key ∈ es.map (·.2.key) ∧ ix.describe? d = none) ∨
      (d.key ∉ es.map (·.2.key) ∧ ∃ n ix', ix.describe? d = some (n, ix') ∧ Entered ix' (es ++ [(n, d)])) := by
  have hrecord := addRecord?_key ix h.lost d.key
  have htaken : ix.records.any (·.key == .text d.key) = true ↔ d.key ∈ es.map (·.2.key) := by
    rw [h.records, List.any_map, List.any_eq_true, List.mem_map]
    simp
  by_cases hkey : d.key ∈ es.map (·.2.key)
  · refine .inl ⟨hkey, ?_⟩
    rw [if_pos (htaken.mpr hkey)] at hrecord
    rw [describe?, hrecord]
    rfl
  · rw [if_neg fun hany => hkey (htaken.mp hany)] at hrecord
    generalize hn : nextId (ix.records.map (·.id)) = n at hrecord
    have hnew : n ∉ es.map (·.1) := by
      intro hmem
      have hlt : n < nextId (ix.records.map (·.id)) := by
        refine lt_nextId ?_
        rw [h.records, List.map_map]
        exact hmem
      omega
    have henterable : ∀ r ∈ d.rows n, Enterable r.1 r.2 := fun r hr => enterable_of_mem_rows hr
    obtain ⟨ix', hall, hlost, hrecords, hrows⟩ := addAll?_adds
      (show ({ ix with records := ix.records ++ [⟨n, .text d.key⟩] } : Index).lost = [] from h.lost) henterable
    refine .inr ⟨hkey, n, ix', ?_, hlost, ?_, fun t => ?_, ?_, ?_⟩
    · rw [describe?, hrecord]
      simp only [Option.bind_eq_bind, Option.bind_some, hall]
      rfl
    · rw [hrecords, List.map_append, h.records]
      rfl
    · rw [hrows, List.flatMap_append, storedIn_append, ← h.rows t]
      simp only [List.flatMap_cons, List.flatMap_nil, List.append_nil]
      cases t <;> rfl
    · rw [List.map_append, List.map_singleton, ← List.concat_eq_append]
      exact h.numbers.concat hnew
    · rw [List.map_append, List.map_singleton, ← List.concat_eq_append]
      exact h.keys.concat hkey

/-- Descriptions that were entered are there, after those that were. -/
theorem entered_describeAll? {ix ix' : Index} {es : List (Int × Description)} (h : Entered ix es)
    {ds : List Description} {ns : List Int} (hds : ix.describeAll? ds = some (ns, ix')) :
    ns.length = ds.length ∧ Entered ix' (es ++ ns.zip ds) := by
  induction ds generalizing ix es ns with
  | nil =>
    cases hds
    exact ⟨rfl, by simpa using h⟩
  | cons d rest ih =>
    rw [describeAll?] at hds
    rcases describe?_cases h d with ⟨-, hnone⟩ | ⟨-, n, next, hone, hnext⟩
    · rw [hnone] at hds
      cases hds
    · simp only [hone, Option.bind_eq_bind, Option.bind_some] at hds
      obtain ⟨⟨more, last⟩, hrest, heq⟩ := Option.bind_eq_some_iff.mp hds
      cases heq
      obtain ⟨hlength, hentered⟩ := ih hnext hrest
      refine ⟨congrArg (· + 1) hlength, ?_⟩
      rwa [List.append_assoc, List.singleton_append] at hentered

/-- Descriptions can all be entered exactly if their keys are different, and none is taken. -/
theorem isSome_describeAll? {ix : Index} {es : List (Int × Description)} (h : Entered ix es)
    (ds : List Description) :
    (ix.describeAll? ds).isSome ↔ (es.map (·.2.key) ++ ds.map (·.key)).Nodup := by
  induction ds generalizing ix es with
  | nil => simpa [describeAll?] using h.keys
  | cons d rest ih =>
    rcases describe?_cases h d with ⟨hkey, hnone⟩ | ⟨hkey, n, next, hone, hnext⟩
    · have hnodup : ¬(es.map (·.2.key) ++ (d :: rest).map (·.key)).Nodup := by
        intro hnodup
        exact (List.nodup_append.mp hnodup).2.2 _ hkey _ List.mem_cons_self rfl
      simpa [describeAll?, hnone] using hnodup
    · have hih := ih hnext
      rw [List.map_append, List.append_assoc, List.map_singleton] at hih
      show _ ↔ (es.map (·.2.key) ++ ([d.key] ++ rest.map (·.key))).Nodup
      rw [← hih, describeAll?, hone]
      cases hrest : next.describeAll? rest <;> simp [hrest]

/-! ### Rows of records -/

/-- The rows of a description's record are those that were entered with it. -/
theorem exists_row_iff {ix : Index} {es : List (Int × Description)} (h : Entered ix es) {u : Table} {key : String}
    {holds : Row → Prop} :
    (∃ r ∈ ix.records, r.key = .text key ∧ ∃ row ∈ rowsOf ix r u, holds row) ↔
      ∃ e ∈ es, e.2.key = key ∧ ∃ given, (u, given) ∈ e.2.rows e.1 ∧
        ∃ row ∈ ix.rows u, row.cells = stored u given ∧ holds row := by
  have hid : (Column.integer "record_id").always ∈ u.columns := by
    cases u <;> simp [Table.columns]
  have hrecord {e : Int × Description} {given : Entries Cell} (hgiven : (u, given) ∈ e.2.rows e.1) {row : Row}
      (hrow : row.cells = stored u given) : row.cell "record_id" = .int e.1 := by
    have hcell : row.cell "record_id" = _ := cell_stored hid hrow row.id
    rw [hcell, show given.get? (Column.integer "record_id").always.name = _ from record_of_mem_rows hgiven]
    rfl
  rw [h.records]
  constructor
  · rintro ⟨r, hr, hkey, row, hrow, hholds⟩
    obtain ⟨e, he, rfl⟩ := List.mem_map.mp hr
    obtain ⟨hmem, hof⟩ := mem_rowsOf.mp hrow
    have hstored : row.cells ∈ storedIn u (es.flatMap fun e => e.2.rows e.1) := h.rows u ▸ List.mem_map_of_mem hmem
    obtain ⟨given, hgiven, hcells⟩ := mem_storedIn.mp hstored
    obtain ⟨e', he', hgiven⟩ := List.mem_flatMap.mp hgiven
    -- The row names its record, and no two descriptions were entered under one number.
    have hsame : e'.1 = e.1 := by
      rw [hrecord hgiven hcells] at hof
      exact Cell.int.inj hof
    obtain rfl : e' = e := List.inj_on_of_nodup_map h.numbers he' he hsame
    exact ⟨e', he, Cell.text.inj hkey, given, hgiven, row, hmem, hcells, hholds⟩
  · rintro ⟨e, he, hkey, given, hgiven, row, hmem, hcells, hholds⟩
    exact ⟨_, List.mem_map_of_mem he, congrArg Cell.text hkey, row,
      mem_rowsOf.mpr ⟨hmem, hrecord hgiven hcells⟩, hholds⟩

/-- A row that was entered with a description is there. -/
theorem exists_stored {ix : Index} {es : List (Int × Description)} (h : Entered ix es) {e : Int × Description}
    (he : e ∈ es) {u : Table} {given : Entries Cell} (hgiven : (u, given) ∈ e.2.rows e.1) :
    ∃ row ∈ ix.rows u, row.cells = stored u given := by
  have hstored : stored u given ∈ (ix.rows u).map (·.cells) := by
    rw [h.rows]
    exact mem_storedIn.mpr ⟨given, List.mem_flatMap.mpr ⟨e, he, hgiven⟩, rfl⟩
  exact List.mem_map.mp hstored

theorem keyedRecords_of_entered {ix : Index} {es : List (Int × Description)} (h : Entered ix es) :
    KeyedRecords ix := by
  refine ⟨fun r hr => ?_, ?_⟩
  · rw [h.records] at hr
    obtain ⟨e, -, rfl⟩ := List.mem_map.mp hr
    exact ⟨e.2.key, rfl⟩
  · rw [h.records, List.map_map]
    have hkeys := h.keys.map (f := Cell.text) fun _ _ => Cell.text.inj
    rwa [List.map_map] at hkeys

end Catalogue.Index
