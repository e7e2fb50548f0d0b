import Catalogue.Index.Execution
import Catalogue.Proofs.Index.Joins
import Catalogue.Proofs.Text.Utf8

/-! The order of results. A statement brings its matches into the order of their keys
(`ascending_allResults`), of each record that has one exactly one
(`mem_allResults`); candidates that come in that order stay in it
(`sortCandidates_of_sorted`). -/
namespace Catalogue.Index

/-! ### Matches by key -/

/-- The key of a match's record, if that is a text. -/
def Match.keyText (m : Match) : String := m.record.key.text?.getD ""

/-- Whether the key of a match's record is a text. -/
def Match.HasKey (m : Match) : Prop := m.record.key = .text m.keyText

theorem Match.hasKey_of_text {m : Match} {s : String} (h : m.record.key = .text s) : m.HasKey := by
  rw [HasKey, keyText, h]
  rfl

/-- Matches in the order of their keys. -/
def Sorted (ms : List Match) : Prop := ms.Pairwise fun a b => a.keyText ≤ b.keyText

theorem order_eq_lt {a b : Match} (ha : a.HasKey) (hb : b.HasKey) :
    (Cell.order a.record.key b.record.key == .lt) = decide (a.keyText < b.keyText) := by
  rw [ha, hb]
  by_cases hlt : a.keyText < b.keyText
  · simp [Cell.order, hlt]
  · by_cases heq : a.keyText = b.keyText <;> simp [Cell.order, hlt, heq]

theorem perm_insertByKey (m : Match) (ms : List Match) : (insertByKey m ms).Perm (m :: ms) := by
  induction ms with
  | nil => exact .refl _
  | cons n rest ih =>
    simp only [insertByKey]
    split
    · exact .refl _
    · exact (ih.cons n).trans (.swap m n rest)

theorem sorted_insertByKey {m : Match} {ms : List Match} (hm : m.HasKey) (hms : ∀ n ∈ ms, n.HasKey)
    (h : Sorted ms) : Sorted (insertByKey m ms) := by
  induction ms with
  | nil => exact List.pairwise_singleton _ _
  | cons n rest ih =>
    obtain ⟨hn, hrest⟩ := List.pairwise_cons.mp h
    simp only [insertByKey, order_eq_lt hm (hms n (List.mem_cons_self ..)), decide_eq_true_eq]
    split
    · rename_i hlt
      refine List.pairwise_cons.mpr ⟨fun k hk => ?_, h⟩
      rcases List.mem_cons.mp hk with rfl | hk
      · exact hlt.le
      · exact hlt.le.trans (hn k hk)
    · rename_i hge
      refine List.pairwise_cons.mpr
        ⟨fun k hk => ?_, ih (fun k hk => hms k (List.mem_cons_of_mem _ hk)) hrest⟩
      rcases List.mem_cons.mp ((perm_insertByKey m rest).mem_iff.mp hk) with rfl | hk
      · exact not_lt.mp hge
      · exact hn k hk

private theorem foldl_insertByKey (ms done : List Match) (hms : ∀ m ∈ ms, m.HasKey)
    (hdone : ∀ m ∈ done, m.HasKey) (h : Sorted done) :
    (ms.foldl (fun done m => insertByKey m done) done).Perm (ms ++ done) ∧
      Sorted (ms.foldl (fun done m => insertByKey m done) done) := by
  induction ms generalizing done with
  | nil => exact ⟨.refl _, h⟩
  | cons m rest ih =>
    have hm := hms m (List.mem_cons_self ..)
    have hkeys : ∀ n ∈ insertByKey m done, n.HasKey := by
      intro n hn
      rcases List.mem_cons.mp ((perm_insertByKey m done).mem_iff.mp hn) with rfl | hn
      · exact hm
      · exact hdone n hn
    obtain ⟨hperm, hsorted⟩ := ih (insertByKey m done)
      (fun n hn => hms n (List.mem_cons_of_mem _ hn)) hkeys (sorted_insertByKey hm hdone h)
    refine ⟨hperm.trans ?_, hsorted⟩
    exact ((perm_insertByKey m done).append_left rest).trans List.perm_middle

/-- Bringing matches into order keeps them all. -/
theorem sortByKey_spec {ms : List Match} (hms : ∀ m ∈ ms, m.HasKey) :
    (sortByKey ms).Perm ms ∧ Sorted (sortByKey ms) := by
  obtain ⟨hperm, hsorted⟩ := foldl_insertByKey ms [] hms (by simp) List.Pairwise.nil
  rw [List.append_nil] at hperm
  exact ⟨hperm, hsorted⟩

/-! ### All results of a statement -/

section Results
variable {ix : Index} {s : Statement}

theorem record_of_mem_matchesOf {r : Record} {m : Match} (h : m ∈ s.matchesOf ix r) : m.record = r := by
  obtain ⟨rows, -, rfl⟩ := List.mem_map.mp (List.mem_filter.mp h).1
  rfl

theorem record_of_first? {r : Record} {m : Match} (h : first? (s.matchesOf ix r) = some m) :
    m.record = r :=
  record_of_mem_matchesOf (mem_of_first? h)

/-- The records of the matches that are kept are records of the index, in their order. -/
theorem records_sublist (rs : List Record) :
    ((rs.filterMap fun r => first? (s.matchesOf ix r)).map (·.record)).Sublist rs := by
  induction rs with
  | nil => exact .slnil
  | cons r rest ih =>
    rw [List.filterMap_cons]
    cases hm : first? (s.matchesOf ix r) with
    | none => exact ih.cons r
    | some m =>
      rw [List.map_cons, record_of_first? hm]
      exact ih.cons_cons r

/-- The index's records have keys that are texts, and no two have the same. -/
structure KeyedRecords (ix : Index) : Prop where
  text : ∀ r ∈ ix.records, ∃ key, r.key = .text key
  nodup : (ix.records.map (·.key)).Nodup

private theorem hasKey_of_mem (h : KeyedRecords ix) :
    ∀ m ∈ ix.records.filterMap fun r => first? (s.matchesOf ix r), m.HasKey := by
  intro m hm
  obtain ⟨r, hr, hfirst⟩ := List.mem_filterMap.mp hm
  obtain ⟨key, hkey⟩ := h.text r hr
  exact Match.hasKey_of_text (record_of_first? hfirst ▸ hkey)

theorem mem_allResults (h : KeyedRecords ix) {m : Match} :
    m ∈ s.allResults ix ↔ ∃ r ∈ ix.records, first? (s.matchesOf ix r) = some m := by
  rw [Statement.allResults, (sortByKey_spec (hasKey_of_mem h)).1.mem_iff, List.mem_filterMap]

theorem hasKey_of_mem_allResults (h : KeyedRecords ix) {m : Match} (hm : m ∈ s.allResults ix) :
    m.HasKey := by
  refine hasKey_of_mem h (s := s) m ?_
  rwa [Statement.allResults, (sortByKey_spec (hasKey_of_mem h)).1.mem_iff] at hm

/-- The keys of all results ascend, so no record has two of them. -/
theorem ascending_allResults (h : KeyedRecords ix) :
    (s.allResults ix).Pairwise fun a b => a.keyText < b.keyText := by
  obtain ⟨hperm, hsorted⟩ := sortByKey_spec (hasKey_of_mem (s := s) h)
  have hnodup : ((s.allResults ix).map (·.record.key)).Nodup := by
    have hrecords : ((ix.records.filterMap fun r => first? (s.matchesOf ix r)).map (·.record)).Sublist
        ix.records := records_sublist ix.records
    have hkeys := (hrecords.map (·.key)).nodup h.nodup
    rw [List.map_map] at hkeys
    exact (hperm.map _).nodup_iff.mpr hkeys
  rw [List.Nodup, List.pairwise_map] at hnodup
  refine (hsorted.and hnodup).imp_of_mem fun {a b} ha hb hab => lt_of_le_of_ne hab.1 ?_
  intro heq
  apply hab.2
  rw [hasKey_of_mem_allResults h ha, hasKey_of_mem_allResults h hb, heq]

end Results

/-! ### Candidates -/

theorem perm_insertCandidate (c : Candidate) (cs : List Candidate) : (insertCandidate c cs).Perm (c :: cs) := by
  induction cs with
  | nil => exact .refl _
  | cons d rest ih =>
    simp only [insertCandidate]
    split
    · exact .refl _
    · exact (ih.cons d).trans (.swap c d rest)

/-- No candidate is lost or added. -/
theorem perm_sortCandidates (cs : List Candidate) : (sortCandidates cs).Perm cs := by
  have hfold (done : List Candidate) : (cs.foldl (fun done c => insertCandidate c done) done).Perm (cs ++ done) := by
    induction cs generalizing done with
    | nil => exact .refl _
    | cons c rest ih =>
      refine (ih _).trans ?_
      exact ((perm_insertCandidate c done).append_left rest).trans List.perm_middle
  simpa [sortCandidates] using hfold []

theorem insertCandidate_last {c : Candidate} {cs : List Candidate}
    (h : ∀ d ∈ cs, d.recordId ≤ c.recordId) : insertCandidate c cs = cs ++ [c] := by
  induction cs with
  | nil => rfl
  | cons d rest ih =>
    have hd := h d (List.mem_cons_self ..)
    rw [insertCandidate, if_neg (not_lt.mpr hd), ih fun e he => h e (List.mem_cons_of_mem _ he),
      List.cons_append]

private theorem foldl_insertCandidate (cs done : List Candidate)
    (h : (done ++ cs).Pairwise fun a b => a.recordId ≤ b.recordId) :
    cs.foldl (fun done c => insertCandidate c done) done = done ++ cs := by
  induction cs generalizing done with
  | nil => simp
  | cons c rest ih =>
    have hlast : insertCandidate c done = done ++ [c] :=
      insertCandidate_last fun d hd => (List.pairwise_append.mp h).2.2 d hd c (List.mem_cons_self ..)
    rw [List.foldl_cons, hlast, ih _ (by simpa using h)]
    simp

/-- Candidates in the order of their keys stay as they are. -/
theorem sortCandidates_of_sorted {cs : List Candidate}
    (h : cs.Pairwise fun a b => a.recordId ≤ b.recordId) : sortCandidates cs = cs := by
  rw [sortCandidates, foldl_insertCandidate cs [] (by simpa using h), List.nil_append]

/-- A candidate has the key of its match's record. -/
theorem recordId_candidate (p : Plan) {m : Match} (h : m.HasKey) :
    (m.candidate p).recordId = m.keyText := by
  have hget : Entries.get? "record_id" m.resultRow = some m.record.key.toJson :=
    Entries.get?_cons .. |>.trans (if_pos rfl)
  simp only [Match.candidate, hget, Option.bind_some]
  rw [h]
  rfl

end Catalogue.Index
