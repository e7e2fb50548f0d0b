import Catalogue.Proofs.Index.Meaning

/-! Joins. The conditions of a statement look at one table each, so a combination of
rows satisfies them all if each of its rows satisfies those on its own table
(`mem_matchesOf`). A record is therefore found if every table has such a row
(`first?_isSome`), and of the combinations the one that is kept has the row with
the least number in every table (`least_of_first?`). -/
namespace Catalogue

open Index

namespace Plan

/-- Whether a row satisfies all filters of a plan on its table. -/
def Accepts (p : Plan) (t : Table) (row : Row) : Prop :=
  ∀ f ∈ p.filters, f.table = t → f.truth row = some true

/-- The tables that some filter of a plan looks at, in the order in which they are joined. -/
def tables (p : Plan) : List Table := Table.all.filter fun t => p.filters.any fun f => f.table == t

/-- Whether a plan finds a record: each table that it looks at has a row of the record that
satisfies all filters on the table. -/
def Finds (p : Plan) (ix : Index) (r : Record) : Prop :=
  ∀ t ∈ p.tables, ∃ row ∈ ix.rows t, row.cell "record_id" = .int r.id ∧ p.Accepts t row

theorem mem_tables {p : Plan} {t : Table} : t ∈ p.tables ↔ ∃ f ∈ p.filters, f.table = t := by
  have hall : t ∈ Table.all := by cases t <;> decide
  simp [tables, hall]

theorem nodup_tables (p : Plan) : p.tables.Nodup := List.Nodup.filter _ (by decide)

end Plan

namespace Index

/-! ### Combinations -/

theorem mem_rowsOf {ix : Index} {r : Record} {t : Table} {row : Row} :
    row ∈ rowsOf ix r t ↔ row ∈ ix.rows t ∧ row.cell "record_id" = .int r.id := by
  simp [rowsOf]

theorem mem_combinations {ix : Index} {r : Record} {ts : List Table} {rows : List (Table × Row)} :
    rows ∈ combinations ix r ts ↔ rows.map (·.1) = ts ∧ ∀ j ∈ rows, j.2 ∈ rowsOf ix r j.1 := by
  induction ts generalizing rows with
  | nil =>
    simp only [combinations, List.mem_singleton, List.map_eq_nil_iff]
    constructor
    · rintro rfl
      simp
    · exact fun h => h.1
  | cons t rest ih =>
    simp only [combinations, List.mem_flatMap, List.mem_map]
    constructor
    · rintro ⟨row, hrow, tail, htail, rfl⟩
      obtain ⟨htables, hrows⟩ := ih.mp htail
      refine ⟨by rw [List.map_cons, htables], fun j hj => ?_⟩
      rcases List.mem_cons.mp hj with rfl | hj
      · exact hrow
      · exact hrows j hj
    · rintro ⟨htables, hrows⟩
      cases rows with
      | nil => cases htables
      | cons j tail =>
        obtain ⟨u, row⟩ := j
        simp only [List.map_cons, List.cons.injEq] at htables
        obtain ⟨rfl, htail⟩ := htables
        exact ⟨row, hrows _ (List.mem_cons_self ..), tail,
          ih.mpr ⟨htail, fun j hj => hrows j (List.mem_cons_of_mem _ hj)⟩, rfl⟩

/-- The row of a table that is joined once. -/
theorem row?_of_mem {m : Match} (hn : (m.rows.map (·.1)).Nodup) {t : Table} {row : Row}
    (h : (t, row) ∈ m.rows) : m.row? t = some row := by
  obtain ⟨record, rows⟩ := m
  simp only [Match.row?] at *
  induction rows with
  | nil => cases h
  | cons j rest ih =>
    obtain ⟨u, row'⟩ := j
    rw [List.map_cons, List.nodup_cons] at hn
    rcases List.mem_cons.mp h with he | h
    · simp_all
    · have hne : u ≠ t := by
        rintro rfl
        exact hn.1 (List.mem_map.mpr ⟨(u, row), h, rfl⟩)
      simpa [hne] using ih hn.2 h

/-! ### The first combination -/

theorem idsBefore_irrefl (as : List Int) : idsBefore as as = false := by
  induction as with
  | nil => rfl
  | cons a as ih => simp [idsBefore, ih]

theorem idsBefore_asymm {as bs : List Int} (h : idsBefore as bs = true) : idsBefore bs as = false := by
  induction as generalizing bs with
  | nil => simp [idsBefore] at h
  | cons a as ih =>
    cases bs with
    | nil => rfl
    | cons b bs =>
      simp only [idsBefore, Bool.or_eq_true, decide_eq_true_eq, Bool.and_eq_true, beq_iff_eq] at h
      simp only [idsBefore, Bool.or_eq_false_iff, decide_eq_false_iff_not, Bool.and_eq_false_imp,
        beq_iff_eq]
      rcases h with h | ⟨rfl, h⟩
      · exact ⟨by omega, fun he => by omega⟩
      · exact ⟨by omega, fun _ => ih h⟩

/-- Of three lists of numbers for the same tables, one that is not after a second that is not after
a third is not after the third. -/
theorem not_idsBefore_trans {as bs cs : List Int} (hb : bs.length = as.length)
    (hc : cs.length = as.length) (hba : idsBefore bs as = false) (hcb : idsBefore cs bs = false) :
    idsBefore cs as = false := by
  induction as generalizing bs cs with
  | nil =>
    cases cs <;> rfl
  | cons a as ih =>
    obtain ⟨b, bs, rfl⟩ := List.exists_cons_of_length_eq_add_one hb
    obtain ⟨c, cs, rfl⟩ := List.exists_cons_of_length_eq_add_one hc
    simp only [List.length_cons, Nat.add_right_cancel_iff] at hb hc
    simp only [idsBefore, Bool.or_eq_false_iff, decide_eq_false_iff_not, Bool.and_eq_false_imp,
      beq_iff_eq] at *
    refine ⟨by omega, fun hca => ih hb hc (hba.2 (by omega)) (hcb.2 (by omega))⟩

/-- Numbers that are the same up to one that is smaller come before. -/
theorem idsBefore_append (xs ys zs : List Int) {a b : Int} (h : a < b) :
    idsBefore (xs ++ a :: ys) (xs ++ b :: zs) = true := by
  induction xs with
  | nil => simp [idsBefore, h]
  | cons x xs ih => simp [idsBefore, ih]

/-- Of two combinations the one that is kept is not after either. -/
theorem kept_of_two (a b : Match) : ∃ m, (if idsBefore b.ids a.ids then b else a) = m ∧ (m = a ∨ m = b) ∧
    idsBefore a.ids m.ids = false ∧ idsBefore b.ids m.ids = false := by
  cases h : idsBefore b.ids a.ids with
  | true => exact ⟨b, rfl, .inr rfl, idsBefore_asymm h, idsBefore_irrefl _⟩
  | false => exact ⟨a, rfl, .inl rfl, idsBefore_irrefl _, h⟩

theorem first?_cons_cons (a b : Match) (rest : List Match) :
    first? (a :: b :: rest) = first? ((if idsBefore b.ids a.ids then b else a) :: rest) := by
  simp only [first?, List.foldl_cons]
  split <;> rfl

/-- If there are combinations, one of them is kept. -/
theorem exists_first? (a : Match) (rest : List Match) : ∃ m ∈ a :: rest, first? (a :: rest) = some m := by
  induction rest generalizing a with
  | nil => exact ⟨a, List.mem_singleton_self a, rfl⟩
  | cons b rest ih =>
    obtain ⟨w, hw, hkept, -⟩ := kept_of_two a b
    obtain ⟨m, hm, hfirst⟩ := ih w
    refine ⟨m, ?_, by rw [first?_cons_cons, hw, hfirst]⟩
    rcases List.mem_cons.mp hm with rfl | hm
    · rcases hkept with rfl | rfl <;> simp
    · simp [hm]

theorem mem_of_first? {ms : List Match} {m : Match} (h : first? ms = some m) : m ∈ ms := by
  cases ms with
  | nil => cases h
  | cons a rest =>
    obtain ⟨m', hm', hfirst⟩ := exists_first? a rest
    obtain rfl := Option.some.inj (hfirst.symm.trans h)
    exact hm'

theorem isSome_first? {ms : List Match} : (first? ms).isSome ↔ ms ≠ [] := by
  cases ms with
  | nil => simp [first?]
  | cons a rest =>
    obtain ⟨m, -, hfirst⟩ := exists_first? a rest
    simp [hfirst]

/-- No combination is before the one that is kept, if all are of the same tables. -/
theorem not_before_first? {k : Nat} {ms : List Match} (hk : ∀ n ∈ ms, n.ids.length = k) {m : Match}
    (h : first? ms = some m) : ∀ n ∈ ms, idsBefore n.ids m.ids = false := by
  cases ms with
  | nil => exact List.forall_mem_nil _
  | cons a rest =>
    induction rest generalizing a with
    | nil =>
      obtain rfl : a = m := Option.some.inj h
      exact List.forall_mem_singleton.mpr (idsBefore_irrefl _)
    | cons b rest ih =>
      have hkm := hk m (mem_of_first? h)
      obtain ⟨w, hw, hkept, hwa, hwb⟩ := kept_of_two a b
      rw [first?_cons_cons, hw] at h
      simp only [List.forall_mem_cons] at hk ih ⊢
      obtain ⟨hka, hkb, hkrest⟩ := hk
      have hkw : w.ids.length = k := by rcases hkept with rfl | rfl <;> assumption
      obtain ⟨hmw, hleast⟩ := ih w ⟨hkw, hkrest⟩ h
      exact ⟨not_idsBefore_trans (hkw.trans hkm.symm) (hka.trans hkm.symm) hmw hwa,
        not_idsBefore_trans (hkw.trans hkm.symm) (hkb.trans hkm.symm) hmw hwb, hleast⟩

/-! ### The combinations that a statement accepts -/

section Accepted
variable {ix : Index} {p : Plan} {s : Statement} {bs : List BoundCondition} {r : Record}

/-- The tables that a statement joins are those that its plan looks at. -/
theorem StatementOf.tables_eq (h : StatementOf p s bs) : s.tables = p.tables := by
  refine List.filter_congr fun t _ => ?_
  rw [Bool.eq_iff_iff, List.any_eq_true, List.any_eq_true]
  simp only [beq_iff_eq, h.conditions, List.mem_map]
  constructor
  · rintro ⟨_, ⟨b, hb, rfl⟩, ht⟩
    obtain ⟨i, f, hf, hc⟩ := h.filter_of_mem hb
    exact ⟨f, hf, (condition_shape hc).1 ▸ ht⟩
  · rintro ⟨f, hf, ht⟩
    obtain ⟨i, b, hb, hc⟩ := h.condition_of_mem hf
    exact ⟨_, ⟨b, hb, rfl⟩, (condition_shape hc).1.trans ht⟩

/-- A row satisfies the conditions on its table if it satisfies the filters. -/
theorem StatementOf.accepts_row (h : StatementOf p s bs) {t : Table} {row : Row}
    (hrow : t.Admits row) :
    (∀ c ∈ s.conditions, c.table = t → c.truth s.bound row = some true) ↔ p.Accepts t row := by
  simp only [h.conditions, List.mem_map, forall_exists_index, and_imp, forall_apply_eq_imp_iff₂]
  constructor
  · intro hall f hf ht
    obtain ⟨i, b, hb, hc⟩ := h.condition_of_mem hf
    rw [← condition_truth hc (fun e he => h.bound_parameter hb he) (ht ▸ hrow)]
    exact hall b hb ((condition_shape hc).1.trans ht)
  · intro hall b hb ht
    obtain ⟨i, f, hf, hc⟩ := h.filter_of_mem hb
    have htable : f.table = t := (condition_shape hc).1 ▸ ht
    rw [condition_truth hc (fun e he => h.bound_parameter hb he) (htable ▸ hrow)]
    exact hall f hf htable

/-- A statement accepts the combinations of a record's rows that satisfy the filters on their
tables. -/
theorem StatementOf.mem_matchesOf (h : StatementOf p s bs) (htyped : ∀ t, ∀ row ∈ ix.rows t, t.Admits row)
    {m : Match} :
    m ∈ s.matchesOf ix r ↔ m.record = r ∧ m.rows.map (·.1) = p.tables ∧
      ∀ j ∈ m.rows, j.2 ∈ rowsOf ix r j.1 ∧ p.Accepts j.1 j.2 := by
  obtain ⟨record, rows⟩ := m
  have hmem : (⟨record, rows⟩ : Match) ∈ s.matchesOf ix r ↔
      (record = r ∧ rows.map (·.1) = p.tables ∧ ∀ j ∈ rows, j.2 ∈ rowsOf ix r j.1) ∧
        ∀ c ∈ s.conditions, (⟨record, rows⟩ : Match).truth s.bound c = some true := by
    simp only [Statement.matchesOf, Statement.accepts, List.mem_filter, List.mem_map, h.tables_eq,
      mem_combinations, Match.mk.injEq, List.all_eq_true, beq_iff_eq]
    constructor
    · rintro ⟨⟨_, hrows, rfl, rfl⟩, haccepts⟩
      exact ⟨⟨rfl, hrows⟩, haccepts⟩
    · rintro ⟨⟨rfl, hrows⟩, haccepts⟩
      exact ⟨⟨rows, hrows, rfl, rfl⟩, haccepts⟩
  rw [hmem]
  have htruth : rows.map (·.1) = p.tables → ∀ j ∈ rows, ∀ c, c.table = j.1 →
      (⟨record, rows⟩ : Match).truth s.bound c = c.truth s.bound j.2 := by
    rintro htables ⟨t, row⟩ hj c rfl
    rw [Match.truth, row?_of_mem (htables ▸ p.nodup_tables) hj]
    rfl
  constructor
  · rintro ⟨⟨hrecord, htables, hrows⟩, hall⟩
    refine ⟨hrecord, htables, fun j hj => ⟨hrows j hj, ?_⟩⟩
    rw [← h.accepts_row (htyped j.1 j.2 (mem_rowsOf.mp (hrows j hj)).1)]
    intro c hc ht
    rw [← htruth htables j hj c ht]
    exact hall c hc
  · rintro ⟨hrecord, htables, hrows⟩
    refine ⟨⟨hrecord, htables, fun j hj => (hrows j hj).1⟩, fun c hc => ?_⟩
    have hjoined : c.table ∈ rows.map (·.1) := by
      rw [htables, ← h.tables_eq, Statement.tables, List.mem_filter]
      exact ⟨by cases c.table <;> decide, List.any_eq_true.mpr ⟨c, hc, by simp⟩⟩
    obtain ⟨j, hj, ht⟩ := List.mem_map.mp hjoined
    obtain ⟨hrow, haccepts⟩ := hrows j hj
    rw [htruth htables j hj c ht.symm]
    exact (h.accepts_row (htyped j.1 j.2 (mem_rowsOf.mp hrow).1)).mpr haccepts c hc ht.symm

/-- The combinations of a record have as many numbers as there are tables. -/
theorem StatementOf.length_ids (h : StatementOf p s bs)
    (htyped : ∀ t, ∀ row ∈ ix.rows t, t.Admits row) :
    ∀ m ∈ s.matchesOf ix r, m.ids.length = p.tables.length := by
  intro m hm
  rw [← ((h.mem_matchesOf htyped).mp hm).2.1, Match.ids, List.length_map, List.length_map]

/-- A statement keeps a combination for a record if its plan finds the record. -/
theorem StatementOf.first?_isSome (h : StatementOf p s bs)
    (htyped : ∀ t, ∀ row ∈ ix.rows t, t.Admits row) :
    (first? (s.matchesOf ix r)).isSome = true ↔ p.Finds ix r := by
  constructor
  · intro hsome
    obtain ⟨m, hm⟩ := Option.isSome_iff_exists.mp hsome
    obtain ⟨-, htables, hrows⟩ := (h.mem_matchesOf htyped).mp (mem_of_first? hm)
    intro t ht
    rw [← htables] at ht
    obtain ⟨j, hj, rfl⟩ := List.mem_map.mp ht
    obtain ⟨hrow, haccepts⟩ := hrows j hj
    exact ⟨j.2, (mem_rowsOf.mp hrow).1, (mem_rowsOf.mp hrow).2, haccepts⟩
  · intro hfinds
    have : Nonempty Row := ⟨⟨0, []⟩⟩
    choose! row hrow using hfinds
    have hmem : (⟨r, p.tables.map fun t => (t, row t)⟩ : Match) ∈ s.matchesOf ix r := by
      refine (h.mem_matchesOf htyped).mpr ⟨rfl, ?_, ?_⟩
      · rw [List.map_map]
        exact List.map_id _
      · intro j hj
        obtain ⟨t, ht, rfl⟩ := List.mem_map.mp hj
        obtain ⟨hin, hid, haccepts⟩ := hrow t ht
        exact ⟨mem_rowsOf.mpr ⟨hin, hid⟩, haccepts⟩
    exact isSome_first?.mpr (List.ne_nil_of_mem hmem)

/-- The combination that is kept has in every table the row with the least number among those of
the record that satisfy the filters on the table. -/
theorem StatementOf.least_of_first? (h : StatementOf p s bs)
    (htyped : ∀ t, ∀ row ∈ ix.rows t, t.Admits row) {m : Match}
    (hm : first? (s.matchesOf ix r) = some m) {t : Table} {row : Row} (hj : (t, row) ∈ m.rows)
    {other : Row} (hother : other ∈ rowsOf ix r t) (haccepts : p.Accepts t other) :
    row.id ≤ other.id := by
  obtain ⟨-, htables, hrows⟩ := (h.mem_matchesOf htyped).mp (mem_of_first? hm)
  by_contra hlt
  obtain ⟨before, after, hsplit⟩ := List.append_of_mem hj
  have hbetter : (⟨r, before ++ (t, other) :: after⟩ : Match) ∈ s.matchesOf ix r := by
    refine (h.mem_matchesOf htyped).mpr ⟨rfl, ?_, ?_⟩
    · rw [← htables, hsplit]
      simp
    · intro j hj'
      have hcases : j = (t, other) ∨ j ∈ m.rows := by
        rw [hsplit]
        simp only [List.mem_append, List.mem_cons] at hj' ⊢
        tauto
      rcases hcases with rfl | hj'
      · exact ⟨hother, haccepts⟩
      · exact hrows j hj'
  have hbefore := not_before_first? (h.length_ids htyped) hm _ hbetter
  rw [Match.ids, Match.ids, hsplit, List.map_append, List.map_append, List.map_cons, List.map_cons,
    idsBefore_append _ _ _ (by simpa using hlt)] at hbefore
  cases hbefore

end Accepted

end Index
end Catalogue
