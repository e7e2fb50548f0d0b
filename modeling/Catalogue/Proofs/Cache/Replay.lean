import Catalogue.Proofs.Cache.File
import Mathlib.Data.Finset.Dedup

/-! The cache as a replay of its file. Opening a file finds, for each text, the first of its
lines that is an entry for the text, and nothing else (`get?_openFile`, `size_openFile`). A
cache that was opened on complete lines is what opening its file again would give, however
often something was added to it, could not be added, or the file was opened again
(`run_replays`): what can be looked up is never replaced or lost, and the file only grows, by
one line for each entry that is added. -/
namespace Catalogue.Cache

/-! ### What a file holds -/

/-- The entries that the lines of a file hold, in their order. -/
def held (file : List UInt8) : List CacheEntry := (lines file).filterMap CacheEntry.ofLine?

/-- The first entry for a text that a file holds. -/
def first? (file : List UInt8) (text : String) : Option CacheEntry := (held file).find? (·.queryText == text)

/-- The texts for which a file holds an entry. -/
def texts (file : List UInt8) : Finset String := ((held file).map (·.queryText)).toFinset

variable {c : Cache} {entries : List (String × CacheEntry)} {es : List CacheEntry} {file file' : List UInt8}
  {text : String} {e : CacheEntry}

/-- After an entry was added, its own text has one: the entry that was there, or the new one. Other texts have
what they had. -/
theorem get?_remember_eq (file : List UInt8) (e : CacheEntry) (text : String) :
    get? ⟨file', remember entries e⟩ text =
      if e.queryText = text then some ((get? ⟨file, entries⟩ text).getD e) else get? ⟨file, entries⟩ text := by
  cases hold : get? ⟨file, entries⟩ text with
  | some old => rw [get?_remember hold, Option.getD_some, ite_self]
  | none =>
    split
    · rename_i htext
      subst htext
      exact get?_remember_new hold
    · rename_i htext
      have hnone : entries.find? (·.1 == text) = none := Option.map_eq_none_iff.mp hold
      unfold get? remember
      split
      · rw [hnone]
        rfl
      · rw [List.find?_append, hnone, List.find?_cons_of_neg (by simpa using htext)]
        rfl

/-- Of entries that are added one after the other, the first for a text is kept. -/
theorem get?_foldl_remember (file : List UInt8) : get? ⟨file', es.foldl remember entries⟩ text =
    (get? ⟨file, entries⟩ text).or (es.find? (·.queryText == text)) := by
  induction es generalizing entries with
  | nil => rw [List.find?_nil, Option.or_none]; rfl
  | cons e es ih =>
    rw [List.foldl_cons, ih, get?_remember_eq file]
    by_cases htext : e.queryText = text
    · rw [if_pos htext, List.find?_cons_of_pos (by simpa using htext)]
      cases get? ⟨file, entries⟩ text <;> rfl
    · rw [if_neg htext, List.find?_cons_of_neg (by simpa using htext)]

/-- Opening a file finds the first entry that it holds for a text. -/
theorem get?_openFile (file : List UInt8) (text : String) : (openFile file).get? text = first? file text :=
  (get?_foldl_remember file).trans (Option.none_or)

/-- The texts of entries that are added are added, each once. -/
theorem keys_foldl_remember (es : List CacheEntry) (h : (entries.map (·.1)).Nodup) :
    ((es.foldl remember entries).map (·.1)).Nodup ∧
      ((es.foldl remember entries).map (·.1)).toFinset = (entries.map (·.1) ++ es.map (·.queryText)).toFinset := by
  induction es generalizing entries with
  | nil => exact ⟨h, by rw [List.map_nil, List.append_nil]; rfl⟩
  | cons e es ih =>
    rw [List.foldl_cons]
    have hany : entries.any (·.1 == e.queryText) = true ↔ e.queryText ∈ entries.map (·.1) := by
      simp only [List.any_eq_true, List.mem_map, beq_iff_eq]
    unfold remember
    split
    · rename_i hthere
      obtain ⟨hnodup, hkeys⟩ := ih h
      refine ⟨hnodup, hkeys.trans ?_⟩
      have hmem := hany.mp hthere
      rw [List.map_cons, List.toFinset_append, List.toFinset_append, List.toFinset_cons, Finset.union_insert,
        Finset.insert_eq_of_mem (Finset.mem_union_left _ (List.mem_toFinset.mpr hmem))]
    · rename_i hnew
      have hmem : e.queryText ∉ entries.map (·.1) := fun hmem => hnew (hany.mpr hmem)
      have hadded : ((entries ++ [(e.queryText, e)]).map (·.1)).Nodup := by
        rw [List.map_append]
        exact h.append (List.nodup_singleton _) (by simpa using hmem)
      obtain ⟨hnodup, hkeys⟩ := ih hadded
      refine ⟨hnodup, hkeys.trans ?_⟩
      rw [List.map_append, List.append_assoc]
      rfl

/-- Opening a file finds as many texts as it holds entries for. -/
theorem size_openFile (file : List UInt8) : (openFile file).size = (texts file).card := by
  obtain ⟨hnodup, hkeys⟩ := @keys_foldl_remember [] (held file) List.nodup_nil
  rw [List.map_nil, List.nil_append] at hkeys
  rw [texts, ← hkeys, List.toFinset_card_of_nodup hnodup, List.length_map]
  rfl

/-! ### Uses of a cache -/

/-- What the only writer of a cache file does: add a plan for a text, which may fail, or open the file again. -/
inductive Use where
  | put (w : Writing) (queryText : String) (plan : Plan) (model : String)
  | reopen

namespace Use

/-- Whether an entry that is to be added can be read back. -/
def Sound : Use → Prop
  | put w queryText plan model => CacheEntry.Sound ⟨queryText, plan, model, w.now⟩
  | reopen => True

/-- The cache after a use. -/
def step (c : Cache) : Use → Cache
  | put w queryText plan model => (c.put? w queryText plan model).getD c
  | reopen => openFile c.file

end Use

/-- The cache after several uses. -/
def run (c : Cache) (us : List Use) : Cache := us.foldl Use.step c

/-- A use leaves the cache as it is in memory and file, adds an entry to both, or opens the file. -/
theorem step_cases (c : Cache) (u : Use) : u.step c = c ∨ u.step c = openFile c.file ∨
    ∃ w queryText plan model c', u = .put w queryText plan model ∧ c.put? w queryText plan model = some c' ∧
      u.step c = c' := by
  cases u with
  | reopen => exact .inr (.inl rfl)
  | put w queryText plan model =>
    cases hput : c.put? w queryText plan model with
    | none => exact .inl (congrArg (·.getD c) hput)
    | some c' => exact .inr (.inr ⟨w, queryText, plan, model, c', rfl, hput, congrArg (·.getD c) hput⟩)

theorem kept_use {u : Use} (h : c.Kept) (hu : u.Sound) : (u.step c).Kept := by
  rcases step_cases c u with hstep | hstep | ⟨w, queryText, plan, model, c', rfl, hput, hstep⟩
  · rwa [hstep]
  · rw [hstep, h.same]
    exact h
  · rw [hstep]
    exact kept_put h hu hput

theorem kept_uses {us : List Use} (h : c.Kept) (hus : ∀ u ∈ us, u.Sound) : (run c us).Kept := by
  induction us generalizing c with
  | nil => exact h
  | cons u us ih =>
    obtain ⟨hu, hrest⟩ := List.forall_mem_cons.mp hus
    exact ih (kept_use h hu) hrest

/-- What has been there stays: bytes of the file, and entries that can be looked up. -/
structure Grows (c c' : Cache) : Prop where
  file : c.file <+: c'.file
  entries : ∀ text e, c.get? text = some e → c'.get? text = some e

theorem grows_use {u : Use} (h : c.Kept) : Grows c (u.step c) := by
  rcases step_cases c u with hstep | hstep | ⟨w, queryText, plan, model, c', -, hput, hstep⟩
  · rw [hstep]
    exact ⟨List.prefix_refl _, fun _ _ he => he⟩
  · rw [hstep, h.same]
    exact ⟨List.prefix_refl _, fun _ _ he => he⟩
  · rw [hstep]
    refine ⟨?_, fun _ _ he => get?_put he hput⟩
    unfold put? at hput
    split at hput
    · cases hput
    · cases hput
      exact List.prefix_append _ _

theorem grows_uses {us : List Use} (h : c.Kept) (hus : ∀ u ∈ us, u.Sound) : Grows c (run c us) := by
  induction us generalizing c with
  | nil => exact ⟨List.prefix_refl _, fun _ _ he => he⟩
  | cons u us ih =>
    obtain ⟨hu, hrest⟩ := List.forall_mem_cons.mp hus
    have hfirst := grows_use (u := u) h
    have hmore := ih (kept_use h hu) hrest
    exact ⟨hfirst.file.trans hmore.file, fun text e he => hmore.entries text e (hfirst.entries text e he)⟩

/-! ### The replay -/

/-- Whether a cache is what its file says. -/
structure Replays (c : Cache) : Prop where
  /-- Each text has the first entry for it in the file, or none. -/
  entries : ∀ text, c.get? text = first? c.file text
  /-- There are as many entries as texts. -/
  size : c.size = (texts c.file).card
  /-- Opening the file again changes nothing. -/
  reopened : openFile c.file = c

/-- What an attempt to add an entry does. -/
structure Puts (c : Cache) (w : Writing) (e : CacheEntry) (result : Option Cache) : Prop where
  /-- It succeeds if the file can be written. -/
  succeeds : result.isSome ↔ w.fails = false
  /-- Then the file has one more line. -/
  line : ∀ c' ∈ result, ∃ line, 10 ∉ line ∧ c'.file = c.file ++ (line ++ [10]) ∧
    lines c'.file = lines c.file ++ [line]
  /-- The entry is visible unless its text has had one, and nothing else changes. -/
  visible : ∀ c' ∈ result, ∀ text, c'.get? text =
    if e.queryText = text then some ((c.get? text).getD e) else c.get? text

theorem puts_put? (h : Complete c.file) (w : Writing) (queryText : String) (plan : Plan) (model : String) :
    Puts c w ⟨queryText, plan, model, w.now⟩ (c.put? w queryText plan model) := by
  unfold put?
  cases hfails : w.fails with
  | true => exact ⟨by simp [hfails], nofun, nofun⟩
  | false =>
    refine ⟨by simp [hfails], ?_, ?_⟩
    · rintro _ ⟨⟩
      exact ⟨_, not_mem_line _, rfl, by rw [lines_append h, lines_line]⟩
    · rintro _ ⟨⟩ text
      exact get?_remember_eq c.file _ _

/-- A cache that was opened on complete lines is, after any uses by its only writer, what its file says: for each
text the first line that is an entry for it. What can be looked up stays so and the file keeps its bytes, whatever
is done next; an entry that is added is one more line, and a failure to add one changes nothing. -/
theorem run_replays (hfile : Complete file) {us : List Use} (hus : ∀ u ∈ us, u.Sound) :
    (run (openFile file) us).Replays ∧
    (∀ more : List Use, (∀ u ∈ more, u.Sound) → Grows (run (openFile file) us) (run (run (openFile file) us) more)) ∧
    ∀ w queryText plan model,
      Puts (run (openFile file) us) w ⟨queryText, plan, model, w.now⟩
        ((run (openFile file) us).put? w queryText plan model) ∧
      (w.fails = true → (Use.put w queryText plan model).step (run (openFile file) us) =
        run (openFile file) us) := by
  have hkept := kept_uses (kept_openFile hfile) hus
  generalize run (openFile file) us = c at hkept
  refine ⟨⟨fun text => ?_, ?_, hkept.same⟩, fun more hmore => grows_uses hkept hmore, fun w queryText plan model =>
    ⟨puts_put? hkept.complete w queryText plan model, fun hfails => ?_⟩⟩
  · rw [← get?_openFile, hkept.same]
  · rw [← size_openFile, hkept.same]
  · simp only [Use.step, put?, hfails, if_true, Option.getD_none]

/-- An entry at the start of 1970 for a plan without filters. -/
def plainEntry (queryText model : String) : CacheEntry := ⟨queryText, Plan.ofText queryText, model, ⟨0, 0⟩⟩

theorem sound_plainEntry (queryText model : String) : (plainEntry queryText model).Sound where
  version := (by decide : Number.nat32.holds 1)
  plan := Plan.sound_ofText queryText
  depth := Nat.lt_of_le_of_lt (Plan.depth_toJson (n := 2) (Nat.le_refl 2) (List.forall_mem_nil _)) (by decide)
  timestamp := (⟨by decide +kernel, by decide, by decide⟩ : Timestamp.Valid ⟨0, 0⟩)

/-- Lines that are no entries: bytes that are no text, the start of an object, and a blank line. -/
def foreignLines : List UInt8 := [0xFF, 10, 0x7b, 10, 10]

/-- Lines that are no entries, and two entries for one text. -/
def mixedFile : List UInt8 := foreignLines ++ (plainEntry "q" "first").line ++ (plainEntry "q" "second").line

theorem held_mixedFile : held mixedFile = [plainEntry "q" "first", plainEntry "q" "second"] := by
  have hforeign : (lines foreignLines).filterMap CacheEntry.ofLine? = [] := by decide +kernel
  have hcomplete : Complete foreignLines := by
    rintro b ⟨⟩
    rfl
  rw [held, mixedFile, lines_append (complete_line _ _), lines_append hcomplete, lines_line, lines_line,
    List.filterMap_append, List.filterMap_append, hforeign,
    List.filterMap_cons_some (CacheEntry.ofLine?_line (sound_plainEntry "q" "first")),
    List.filterMap_cons_some (CacheEntry.ofLine?_line (sound_plainEntry "q" "second"))]
  rfl

/-- Another entry for the text, the file opened again, and an entry that cannot be added. -/
def mixedUses : List Use :=
  [.put ⟨⟨0, 0⟩, false⟩ "q" (Plan.ofText "q") "third", .reopen,
    .put ⟨⟨0, 0⟩, true⟩ "other" (Plan.ofText "other") "fourth"]

/-- The first of two entries for a text is found, and still is after more was done. -/
theorem run_replays_mixed : (openFile mixedFile).size = 1 ∧
    (run (openFile mixedFile) mixedUses).get? "q" = some (plainEntry "q" "first") := by
  have hfile : Complete mixedFile := complete_line _ _
  have hsound : ∀ u ∈ mixedUses, u.Sound := by
    simp only [mixedUses, List.forall_mem_cons]
    exact ⟨sound_plainEntry "q" "third", trivial, sound_plainEntry "other" "fourth", List.forall_mem_nil _⟩
  obtain ⟨hreplays, hgrows, -⟩ := run_replays hfile (List.forall_mem_nil Use.Sound)
  have hsize : (run (openFile mixedFile) []).size = (texts mixedFile).card := hreplays.size
  have hfirst : (run (openFile mixedFile) []).get? "q" = some (plainEntry "q" "first") := by
    rw [hreplays.entries]
    show first? mixedFile "q" = _
    rw [first?, held_mixedFile]
    rfl
  refine ⟨?_, (hgrows mixedUses hsound).entries "q" _ hfirst⟩
  rw [texts, held_mixedFile] at hsize
  exact hsize

end Catalogue.Cache
