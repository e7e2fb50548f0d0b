import Catalogue.Proofs.Cache.Entry

/-! The file of the compile cache. A line that is added to a file of complete lines is one
more line of it (`lines_append`), so opening the longer file gives the entries of the
shorter one and the new entry (`openFile_append`): what can be looked up is always what
would be read if the file were opened again (`kept_put`). An entry that can be looked up
stays, whatever is added (`get?_remember`). -/
namespace Catalogue.Cache

open Text.Utf8

/-! ### Lines -/

/-- A file all of whose lines have their line feed. -/
def Complete (file : List UInt8) : Prop := ∀ b ∈ file.getLast?, b = 10

theorem linesFrom_append (line a b : List UInt8) :
    linesFrom line (a ++ 10 :: b) = linesFrom line (a ++ [10]) ++ linesFrom [] b := by
  induction a generalizing line with
  | nil => rfl
  | cons c a ih =>
    simp only [List.cons_append, linesFrom]
    by_cases hc : c = 10
    · rw [if_pos hc, if_pos hc, ih, List.cons_append]
    · rw [if_neg hc, if_neg hc, ih]

/-- A file that ends after complete lines goes on with new lines. -/
theorem lines_append {file : List UInt8} (hfile : Complete file) (more : List UInt8) :
    lines (file ++ more) = lines file ++ lines more := by
  rcases List.eq_nil_or_concat file with rfl | ⟨init, last, rfl⟩
  · rfl
  · obtain rfl : last = 10 := hfile last (by simp)
    rw [List.concat_eq_append, List.append_assoc, List.singleton_append]
    exact linesFrom_append [] init more

theorem endLine_printable {line : List UInt8} (h : ∀ b ∈ line, 32 ≤ b.toNat) : endLine line = line.reverse := by
  unfold endLine
  split
  · exact absurd (h 13 (List.mem_cons_self ..)) (by decide)
  · rfl

/-- Bytes without a line feed are one line. -/
theorem linesFrom_single (line : List UInt8) {bytes : List UInt8} (h : 10 ∉ bytes) :
    linesFrom line (bytes ++ [10]) = [endLine (bytes.reverse ++ line)] := by
  induction bytes generalizing line with
  | nil => rfl
  | cons b bytes ih =>
    simp only [List.mem_cons, not_or] at h
    rw [List.cons_append, linesFrom, if_neg (Ne.symm h.1), ih _ h.2, List.reverse_cons, List.append_assoc]
    rfl

theorem not_mem_line (e : CacheEntry) : 10 ∉ encode e.toJson.compact := fun h =>
  absurd (CacheEntry.printable_line h) (by decide)

theorem lines_line (e : CacheEntry) : lines e.line = [encode e.toJson.compact] := by
  have hend : endLine (encode e.toJson.compact).reverse = encode e.toJson.compact := by
    rw [endLine_printable fun b hb => CacheEntry.printable_line (List.mem_reverse.mp hb), List.reverse_reverse]
  rw [lines, CacheEntry.line, linesFrom_single [] (not_mem_line e), List.append_nil, hend]

theorem complete_line (file : List UInt8) (e : CacheEntry) : Complete (file ++ e.line) := by
  intro b hb
  rw [CacheEntry.line, ← List.append_assoc, List.getLast?_concat] at hb
  exact (Option.some.inj hb).symm

/-- Opening a file again after an entry was added finds the entry too. -/
theorem openFile_append {file : List UInt8} (hfile : Complete file) {e : CacheEntry} (he : e.Sound) :
    openFile (file ++ e.line) = ⟨file ++ e.line, remember (openFile file).entries e⟩ := by
  unfold openFile
  rw [lines_append hfile, lines_line, List.filterMap_append, List.foldl_append,
    List.filterMap_cons_some (CacheEntry.ofLine?_line he)]
  rfl

/-! ### Looking up -/

/-- The entry that was there stays. -/
theorem get?_remember {entries : List (String × CacheEntry)} {file file' : List UInt8} {text : String}
    {e : CacheEntry} (h : get? ⟨file, entries⟩ text = some e) (new : CacheEntry) :
    get? ⟨file', remember entries new⟩ text = some e := by
  obtain ⟨found, hfound, rfl⟩ := Option.map_eq_some_iff.mp h
  refine Option.map_eq_some_iff.mpr ⟨found, ?_, rfl⟩
  show (remember entries new).find? _ = _
  unfold remember
  split
  · exact hfound
  · rw [List.find?_append, hfound]
    rfl

/-- A new entry is there if its text had none. -/
theorem get?_remember_new {entries : List (String × CacheEntry)} {file file' : List UInt8} {e : CacheEntry}
    (h : get? ⟨file, entries⟩ e.queryText = none) : get? ⟨file', remember entries e⟩ e.queryText = some e := by
  have hnone : entries.find? (·.1 == e.queryText) = none := Option.map_eq_none_iff.mp h
  have hany : entries.any (·.1 == e.queryText) = false := by
    rw [List.any_eq_false]
    exact List.find?_eq_none.mp hnone
  unfold get? remember
  rw [hany, if_neg Bool.false_ne_true, List.find?_append, hnone, Option.none_or,
    List.find?_cons_of_pos (by simp only [beq_self_eq_true])]
  rfl

/-! ### Keeping file and entries together -/

/-- A cache over complete lines, of which opening the file again finds the same entries. -/
structure Kept (c : Cache) : Prop where
  complete : Complete c.file
  same : openFile c.file = c

theorem kept_openFile {file : List UInt8} (h : Complete file) : Kept (openFile file) := ⟨h, rfl⟩

/-- What is added to the file is added to the entries. -/
theorem kept_put {c : Cache} (h : c.Kept) {w : Writing} {queryText : String} {plan : Plan} {model : String}
    (he : CacheEntry.Sound ⟨queryText, plan, model, w.now⟩) {c' : Cache}
    (hput : c.put? w queryText plan model = some c') : c'.Kept := by
  unfold put? at hput
  split at hput
  · cases hput
  · cases hput
    exact ⟨complete_line _ _, by rw [openFile_append h.complete he, h.same]⟩

/-- An entry that can be looked up still can after another attempt to add one. -/
theorem get?_put {c c' : Cache} {text : String} {e : CacheEntry} (h : c.get? text = some e) {w : Writing}
    {queryText : String} {plan : Plan} {model : String} (hput : c.put? w queryText plan model = some c') :
    c'.get? text = some e := by
  unfold put? at hput
  split at hput
  · cases hput
  · cases hput
    exact get?_remember h _

end Catalogue.Cache
