import Catalogue.Entries
import Mathlib.Data.String.Basic

/-! Laws of entries under text keys. Putting an entry in changes what is found under
its key and nothing else (`get?_insert`), and keeps the keys ascending. So entries
that are brought into order are found under their keys if no two keys are the same
(`get?_sorted`), and entries that are in order stay as they are (`sorted_of_ascending`). -/
namespace Catalogue.Entries

variable {α : Type}

/-- Entries in the order of their keys, of which no two are the same. -/
def Ascending (es : Entries α) : Prop := es.Pairwise (·.1 < ·.1)

/-! ### Looking up -/

@[simp] theorem get?_nil (key : String) : get? key ([] : Entries α) = none := rfl

theorem get?_cons (key k : String) (v : α) (es : Entries α) :
    get? key ((k, v) :: es) = if k = key then some v else get? key es := by
  by_cases h : k = key <;> simp [get?, h]

theorem get?_eq_none {key : String} {es : Entries α} (h : ∀ e ∈ es, e.1 ≠ key) :
    get? key es = none := by
  induction es with
  | nil => rfl
  | cons e rest ih =>
    obtain ⟨k, w⟩ := e
    rw [get?_cons, if_neg (h (k, w) (List.mem_cons_self ..))]
    exact ih fun e he => h e (List.mem_cons_of_mem _ he)

theorem get?_of_mem {key : String} {v : α} {es : Entries α} (hn : (es.map (·.1)).Nodup)
    (h : (key, v) ∈ es) : get? key es = some v := by
  induction es with
  | nil => cases h
  | cons e rest ih =>
    obtain ⟨k, w⟩ := e
    rw [List.map_cons, List.nodup_cons] at hn
    rw [get?_cons]
    rcases List.mem_cons.mp h with he | h
    · simp_all
    · have hne : k ≠ key := by
        rintro rfl
        exact hn.1 (List.mem_map.mpr ⟨(k, v), h, rfl⟩)
      rw [if_neg hne]
      exact ih hn.2 h

theorem mem_of_get? {key : String} {v : α} {es : Entries α} (h : get? key es = some v) : (key, v) ∈ es := by
  obtain ⟨e, he, rfl⟩ := Option.map_eq_some_iff.mp h
  have hkey := List.find?_some he
  rw [← eq_of_beq hkey]
  exact List.mem_of_find?_eq_some he

/-! ### Putting in -/

theorem get?_insert (key k : String) (v : α) (es : Entries α) :
    get? key (insert k v es) = if k = key then some v else get? key es := by
  induction es with
  | nil => simp [insert, get?_cons]
  | cons e rest ih =>
    obtain ⟨j, w⟩ := e
    simp only [insert]
    split
    · simp [get?_cons]
    · split
      · rename_i h
        subst h
        simp only [get?_cons]
        split <;> rfl
      · rename_i hne
        simp only [get?_cons, ih]
        by_cases hj : j = key
        · simp_all
        · simp [hj]

theorem mem_insert {e : String × α} {k : String} {v : α} {es : Entries α}
    (h : e ∈ insert k v es) : e = (k, v) ∨ e ∈ es := by
  induction es with
  | nil => simpa [insert] using h
  | cons f rest ih =>
    obtain ⟨j, w⟩ := f
    simp only [insert] at h
    split at h
    · simpa using h
    · split at h
      · rcases List.mem_cons.mp h with h | h
        · exact .inl h
        · exact .inr (List.mem_cons_of_mem _ h)
      · rcases List.mem_cons.mp h with h | h
        · exact .inr (h ▸ List.mem_cons_self ..)
        · exact (ih h).imp_right (List.mem_cons_of_mem _)

theorem ascending_insert (k : String) (v : α) {es : Entries α} (h : Ascending es) :
    Ascending (insert k v es) := by
  induction es with
  | nil => exact List.pairwise_singleton _ _
  | cons f rest ih =>
    obtain ⟨j, w⟩ := f
    obtain ⟨hj, hr⟩ := List.pairwise_cons.mp h
    simp only [insert]
    split
    · rename_i hlt
      refine List.pairwise_cons.mpr ⟨fun e he => ?_, h⟩
      rcases List.mem_cons.mp he with rfl | he
      · exact hlt
      · exact lt_trans hlt (hj e he)
    · split
      · rename_i heq
        subst heq
        exact List.pairwise_cons.mpr ⟨hj, hr⟩
      · rename_i hge hne
        refine List.pairwise_cons.mpr ⟨fun e he => ?_, ih hr⟩
        rcases mem_insert he with rfl | he
        · exact lt_of_le_of_ne (not_lt.mp hge) (Ne.symm hne)
        · exact hj e he

/-- The last of two entries with one key is the one that is there. -/
theorem insert_insert (k : String) (v w : α) (es : Entries α) : insert k v (insert k w es) = insert k v es := by
  induction es with
  | nil => simp only [insert, if_neg (lt_irrefl k), if_true]
  | cons f rest ih =>
    obtain ⟨j, x⟩ := f
    by_cases hlt : k < j
    · simp only [insert, if_pos hlt, if_neg (lt_irrefl k), if_true]
    by_cases heq : k = j
    · subst heq
      simp only [insert, if_neg (lt_irrefl k), if_true]
    · simp only [insert, if_neg hlt, if_neg heq, ih]

/-- An entry whose key comes after all others is put at the end. -/
theorem insert_last {k : String} (v : α) {es : Entries α} (h : ∀ e ∈ es, e.1 < k) :
    insert k v es = es ++ [(k, v)] := by
  induction es with
  | nil => rfl
  | cons f rest ih =>
    obtain ⟨j, w⟩ := f
    have hj : j < k := h (j, w) (List.mem_cons_self ..)
    simp only [insert, if_neg (lt_asymm hj), if_neg (ne_of_gt hj),
      ih fun e he => h e (List.mem_cons_of_mem _ he), List.cons_append]

/-! ### Bringing into order -/

private theorem ascending_foldl (es done : Entries α) (h : Ascending done) :
    Ascending (es.foldl (fun done e => insert e.1 e.2 done) done) := by
  induction es generalizing done with
  | nil => exact h
  | cons e rest ih => exact ih _ (ascending_insert _ _ h)

theorem ascending_sorted (es : Entries α) : Ascending (sorted es) :=
  ascending_foldl es [] List.Pairwise.nil

/-- Which keys there are, and in what order, does not depend on the values. -/
theorem keys_insert (k : String) (v w : α) {as bs : Entries α} (h : as.map (·.1) = bs.map (·.1)) :
    (insert k v as).map (·.1) = (insert k w bs).map (·.1) := by
  induction as generalizing bs with
  | nil =>
    obtain rfl := List.map_eq_nil_iff.mp h.symm
    rfl
  | cons a as ih =>
    obtain ⟨⟨j, y⟩, bs, rfl, hj, hrest⟩ := List.map_eq_cons_iff.mp h.symm
    obtain ⟨i, x⟩ := a
    obtain rfl : j = i := hj
    simp only [insert]
    split
    · simp only [List.map_cons, hrest]
    · split
      · simp only [List.map_cons, hrest]
      · simp only [List.map_cons, ih hrest.symm]

private theorem keys_foldl {as bs : Entries α} (h : as.map (·.1) = bs.map (·.1)) {done done' : Entries α}
    (hdone : done.map (·.1) = done'.map (·.1)) :
    (as.foldl (fun done e => insert e.1 e.2 done) done).map (·.1) =
      (bs.foldl (fun done e => insert e.1 e.2 done) done').map (·.1) := by
  induction as generalizing bs done done' with
  | nil =>
    obtain rfl := List.map_eq_nil_iff.mp h.symm
    exact hdone
  | cons a as ih =>
    obtain ⟨⟨k, y⟩, bs, rfl, hkey, hrest⟩ := List.map_eq_cons_iff.mp h.symm
    obtain rfl : k = a.1 := hkey
    exact ih hrest.symm (keys_insert a.1 a.2 y hdone)

theorem keys_sorted {as bs : Entries α} (h : as.map (·.1) = bs.map (·.1)) :
    (sorted as).map (·.1) = (sorted bs).map (·.1) :=
  keys_foldl h rfl

theorem perm_insert {k : String} (v : α) {es : Entries α} (h : k ∉ es.map (·.1)) :
    (insert k v es).Perm ((k, v) :: es) := by
  induction es with
  | nil => exact .refl _
  | cons e rest ih =>
    obtain ⟨j, w⟩ := e
    rw [List.map_cons, List.mem_cons, not_or] at h
    simp only [insert]
    split
    · exact .refl _
    · rw [if_neg h.1]
      exact ((ih h.2).cons _).trans (.swap ..)

private theorem perm_foldl (es done : Entries α) (hn : ((done ++ es).map (·.1)).Nodup) :
    (es.foldl (fun done e => insert e.1 e.2 done) done).Perm (done ++ es) := by
  induction es generalizing done with
  | nil => simp
  | cons e rest ih =>
    have hmiddle : (done ++ e :: rest).Perm (e :: done ++ rest) := List.perm_middle
    have hnodup := (hmiddle.map (·.1)).nodup_iff.mp hn
    have hnew : e.1 ∉ done.map (·.1) := fun hmem =>
      (List.nodup_cons.mp hnodup).1 (List.map_append ▸ List.mem_append_left _ hmem)
    have hinsert := (perm_insert e.2 hnew).append_right rest
    exact (ih _ ((hinsert.map (·.1)).nodup_iff.mpr hnodup)).trans (hinsert.trans hmiddle.symm)

/-- Bringing entries into order loses none, if no two keys are the same. -/
theorem perm_sorted {es : Entries α} (hn : (es.map (·.1)).Nodup) : (sorted es).Perm es :=
  perm_foldl es [] hn

theorem length_insert_le (k : String) (v : α) (es : Entries α) : (insert k v es).length ≤ es.length + 1 := by
  induction es with
  | nil => simp [insert]
  | cons e rest ih =>
    simp only [insert]
    split_ifs <;> simp only [List.length_cons] <;> omega

/-- No entry is added by sorting. -/
theorem length_sorted_le (es : Entries α) : (sorted es).length ≤ es.length := by
  have hfold (done : Entries α) :
      (es.foldl (fun done e => insert e.1 e.2 done) done).length ≤ done.length + es.length := by
    induction es generalizing done with
    | nil => simp
    | cons e rest ih =>
      have hinsert := length_insert_le e.1 e.2 done
      have hrest := ih (insert e.1 e.2 done)
      simp only [List.foldl_cons, List.length_cons]
      omega
  simpa [sorted] using hfold []

theorem mem_foldl_insert {e : String × α} (es done : Entries α)
    (h : e ∈ es.foldl (fun done e => insert e.1 e.2 done) done) : e ∈ es ∨ e ∈ done := by
  induction es generalizing done with
  | nil => exact .inr h
  | cons f rest ih =>
    rcases ih _ h with h | h
    · exact .inl (List.mem_cons_of_mem _ h)
    · rcases mem_insert h with rfl | h
      · exact .inl (List.mem_cons_self ..)
      · exact .inr h

theorem mem_of_mem_sorted {e : String × α} {es : Entries α} (h : e ∈ sorted es) : e ∈ es :=
  (mem_foldl_insert es [] h).resolve_right (List.not_mem_nil)

private theorem get?_foldl (key : String) (es done : Entries α) (hn : (es.map (·.1)).Nodup) :
    get? key (es.foldl (fun done e => insert e.1 e.2 done) done) =
      (get? key es).or (get? key done) := by
  induction es generalizing done with
  | nil => rfl
  | cons e rest ih =>
    obtain ⟨k, v⟩ := e
    rw [List.map_cons, List.nodup_cons] at hn
    rw [List.foldl_cons, ih _ hn.2, get?_insert, get?_cons]
    by_cases hk : k = key
    · subst hk
      have hnone : get? k rest = none :=
        get?_eq_none fun e he heq => hn.1 (List.mem_map.mpr ⟨e, he, heq⟩)
      simp [hnone]
    · simp [hk]

/-- What is found under a key does not depend on the order, if no two keys are the same. -/
theorem get?_sorted (key : String) {es : Entries α} (hn : (es.map (·.1)).Nodup) :
    get? key (sorted es) = get? key es := by
  rw [sorted, get?_foldl key es [] hn]
  simp

private theorem foldl_of_ascending (es done : Entries α) (h : Ascending (done ++ es)) :
    es.foldl (fun done e => insert e.1 e.2 done) done = done ++ es := by
  induction es generalizing done with
  | nil => simp
  | cons e rest ih =>
    have hlast : insert e.1 e.2 done = done ++ [e] :=
      insert_last e.2 fun d hd => (List.pairwise_append.mp h).2.2 d hd e (List.mem_cons_self ..)
    rw [List.foldl_cons, hlast, ih _ (by simpa using h)]
    simp

/-- Entries in order stay as they are. -/
theorem sorted_of_ascending {es : Entries α} (h : Ascending es) : sorted es = es := by
  rw [sorted, foldl_of_ascending es [] (by simpa using h), List.nil_append]

theorem Ascending.nodup {es : Entries α} (h : Ascending es) : (es.map (·.1)).Nodup := by
  rw [List.Nodup, List.pairwise_map]
  exact h.imp fun hlt => ne_of_lt hlt

/-! ### Changing values -/

variable {β : Type}

theorem get?_map (g : α → β) (key : String) (es : Entries α) :
    get? key (es.map fun e => (e.1, g e.2)) = (get? key es).map g := by
  induction es with
  | nil => rfl
  | cons e rest ih =>
    obtain ⟨k, v⟩ := e
    rw [List.map_cons, get?_cons, get?_cons, ih]
    split <;> rfl

theorem insert_map (g : α → β) (k : String) (v : α) (es : Entries α) :
    insert k (g v) (es.map fun e => (e.1, g e.2)) = (insert k v es).map fun e => (e.1, g e.2) := by
  induction es with
  | nil => rfl
  | cons e rest ih =>
    simp only [List.map_cons, insert, ih]
    split_ifs <;> rfl

private theorem foldl_map (g : α → β) (es done : Entries α) :
    (es.map fun e => (e.1, g e.2)).foldl (fun done e => insert e.1 e.2 done) (done.map fun e => (e.1, g e.2)) =
      (es.foldl (fun done e => insert e.1 e.2 done) done).map fun e => (e.1, g e.2) := by
  induction es generalizing done with
  | nil => rfl
  | cons e rest ih =>
    simp only [List.map_cons, List.foldl_cons]
    rw [insert_map, ih]

/-- Values may be changed before or after the entries are brought into order. -/
theorem sorted_map (g : α → β) (es : Entries α) :
    sorted (es.map fun e => (e.1, g e.2)) = (sorted es).map fun e => (e.1, g e.2) :=
  foldl_map g es []

/-- The order of the entries does not matter, if no two keys are the same. -/
theorem sorted_of_perm {es fs : Entries α} (hn : (es.map (·.1)).Nodup) (h : es.Perm fs) : sorted es = sorted fs := by
  have hn' : (fs.map (·.1)).Nodup := (h.map _).nodup_iff.mp hn
  have hperm : (sorted es).Perm (sorted fs) := ((perm_sorted hn).trans h).trans (perm_sorted hn').symm
  refine List.Perm.eq_of_pairwise (fun a b _ _ hab hba => ?_) (ascending_sorted es) (ascending_sorted fs) hperm
  exact absurd (show b.1 < a.1 from hba) (lt_asymm hab)

end Catalogue.Entries
