import Catalogue.Proofs.Cache.Replay
import Catalogue.Proofs.Json.Preceded
import Mathlib.Data.List.DropRight

/-! Cache files that end within a line. An entry is added behind whatever the file holds. If the
file's last line lacks its line feed and is not blank, the entry's line is no line of its own: what
stands before it makes it unreadable (`ofLine?_torn`). The entry can be looked up until the file is
opened again, and then no more, unless the file has the text elsewhere (`found_reopened_iff`). -/
namespace Catalogue.Cache

open Text Text.Utf8 Json

/-! ### The end of a file -/

/-- A file up to its last line feed. -/
def whole (file : List UInt8) : List UInt8 := file.rdropWhile (· != 10)

/-- The line of a file that lacks its line feed. -/
def torn (file : List UInt8) : List UInt8 := file.rtakeWhile (· != 10)

theorem whole_append_torn (file : List UInt8) : whole file ++ torn file = file := List.rdropWhile_append_rtakeWhile ..

theorem complete_whole (file : List UInt8) : Complete (whole file) := by
  intro b hb
  have hne : whole file ≠ [] := fun h => by
    rw [h] at hb
    cases hb
  have hlast : ¬((whole file).getLast hne != 10) := List.rdropWhile_last_not (· != 10) file hne
  rw [List.getLast?_eq_some_getLast hne] at hb
  cases hb
  simpa using hlast

theorem not_mem_torn (file : List UInt8) : 10 ∉ torn file := fun h => by
  have := List.mem_rtakeWhile_imp h
  simp at this

/-- Bytes that may stand before a JSON text. -/
def Blank (bytes : List UInt8) : Prop := ∀ b ∈ bytes, isBlank (Char.ofNat b.toNat) = true

instance (bytes : List UInt8) : Decidable (Blank bytes) :=
  decidable_of_iff ((bytes.all fun b => isBlank (Char.ofNat b.toNat)) = true) List.all_eq_true

/-! ### What an unfinished line does to an entry -/

variable {c c' : Cache} {e : CacheEntry} {bytes : List UInt8}

theorem qObject_toJson (he : e.Sound) : ∃ after, QObject e.toJson after :=
  ⟨_, CacheEntry.writable_toJson he, rfl⟩

theorem toNat_of_isBlank {c : Char} (h : Json.isBlank c = true) : 0 < c.toNat ∧ c.toNat < 0x80 := by
  simp only [Json.isBlank, Bool.or_eq_true, beq_iff_eq] at h
  rcases h with ((rfl | rfl) | rfl) | rfl <;> decide

/-- Blank bytes are read as white space, and no others are. -/
theorem text?_blank : (∃ s, text? bytes = some s ∧ ∀ c ∈ s.toList, isBlank c = true) ↔ Blank bytes := by
  constructor
  · rintro ⟨s, hs, hblank⟩ b hb
    have hdecode := text?_eq_some.mp hs
    have hsingle : ∀ x ∈ decodeFrom none bytes, x.Single := fun x hx => by
      have hchar : x ∈ s.toList.map Piece.char := hdecode.subst hx
      obtain ⟨c, hc, rfl⟩ := List.mem_map.mp hchar
      exact toNat_of_isBlank (hblank c hc)
    have hpending : ∀ p ∈ (none : Option Pending), p.Wide := nofun
    obtain ⟨-, hbytes⟩ := decodeFrom_single hpending hsingle
    have hmem : Piece.char (Char.ofNat b.toNat) ∈ s.toList.map Piece.char := by
      rw [← hdecode, Utf8.decode, hbytes]
      exact List.mem_map_of_mem hb
    obtain ⟨c, hc, heq⟩ := List.mem_map.mp hmem
    cases heq
    exact hblank _ hc
  · intro h
    refine ⟨String.ofList (bytes.map fun b => Char.ofNat b.toNat), text?_eq_some.mpr ?_, fun c hc => ?_⟩
    · rw [String.toList_ofList, List.map_map]
      induction bytes with
      | nil => rfl
      | cons b bytes ih =>
        obtain ⟨hb, hrest⟩ := List.forall_mem_cons.mp h
        have hascii : b.toNat < 0x80 := by
          have hcode := toNat_of_isBlank hb
          rcases Text.toNat_ofNat b.toNat with h | h <;> omega
        rw [Utf8.decode, decodeFrom_ascii hascii]
        exact congrArg _ (ih hrest)
    · rw [String.toList_ofList] at hc
      obtain ⟨b, hb, rfl⟩ := List.mem_map.mp hc
      exact h b hb

/-- The text of bytes and the entry that follows them. -/
theorem text?_before (bytes : List UInt8) (he : e.Sound) : text? (bytes ++ encode e.toJson.compact) =
    (text? bytes).map fun s => String.ofList (s.toList ++ compactChars e.toJson) := by
  obtain ⟨after, hobject⟩ := qObject_toJson he
  rw [compact, hobject.text, text?_append bytes (by decide)]
  cases text? bytes with
  | none => rfl
  | some s =>
    rw [Option.map_some, Option.map_some, String.ofList_append, String.ofList_toList]

theorem ofLine?_of_text? {line : List UInt8} {s : String} (h : text? line = some s) :
    CacheEntry.ofLine? line = (Json.decode CacheEntry.shape.read s).toOption := by
  rw [CacheEntry.ofLine?, h]
  rfl

/-- After an unfinished line that is not blank, an entry is not read. -/
theorem ofLine?_torn (he : e.Sound) (hbytes : ¬Blank bytes) :
    CacheEntry.ofLine? (bytes ++ encode e.toJson.compact) = none := by
  obtain ⟨after, hobject⟩ := qObject_toJson he
  have hbefore := text?_before bytes he
  cases htext : text? bytes with
  | none =>
    rw [htext] at hbefore
    rw [CacheEntry.ofLine?, hbefore]
    rfl
  | some s =>
    rw [htext] at hbefore
    have hcut : ∃ c ∈ s.toList, isBlank c = false := by
      by_contra hall
      refine hbytes (text?_blank.mp ⟨s, htext, fun c hc => ?_⟩)
      exact Bool.eq_true_of_not_eq_false fun hfalse => hall ⟨c, hc, hfalse⟩
    rw [ofLine?_of_text? hbefore]
    cases hread : Json.decode CacheEntry.shape.read (String.ofList (s.toList ++ compactChars e.toJson)) with
    | error _ => rfl
    | ok r => exact absurd hread (decode_preceded hobject hcut r)

/-- After a blank line that is unfinished, an entry is read as if it stood alone. -/
theorem ofLine?_blank (he : e.Sound) (hbytes : Blank bytes) :
    CacheEntry.ofLine? (bytes ++ encode e.toJson.compact) = some e := by
  obtain ⟨s, htext, hblank⟩ := text?_blank.mpr hbytes
  have hbefore := text?_before bytes he
  rw [htext, Option.map_some] at hbefore
  rw [ofLine?_of_text? hbefore, String.ofList_append, decode_blank hblank, ← CacheEntry.ofLine?_line he,
    ofLine?_of_text? (text?_encode _), compact]

/-! ### Lines after an unfinished one -/

/-- The text of an entry ends with a brace. -/
theorem encode_toJson (e : CacheEntry) : ∃ init, encode e.toJson.compact = init ++ [0x7d] := by
  unfold encode compact
  rw [String.toList_ofList, CacheEntry.toJson, compactChars, List.flatMap_append]
  exact ⟨_, rfl⟩

/-- The line of an entry begins where the last line of the file does, if that lacks its line feed. -/
theorem lines_append_line (file : List UInt8) (e : CacheEntry) :
    lines (file ++ e.line) = lines (whole file) ++ [torn file ++ encode e.toJson.compact] := by
  have hsplit : file ++ e.line = whole file ++ ((torn file ++ encode e.toJson.compact) ++ [10]) := by
    conv_lhs => rw [← whole_append_torn file]
    simp only [CacheEntry.line, List.append_assoc]
  have hfeed : 10 ∉ torn file ++ encode e.toJson.compact :=
    List.not_mem_append (not_mem_torn file) (not_mem_line e)
  have hline : lines ((torn file ++ encode e.toJson.compact) ++ [10]) = [torn file ++ encode e.toJson.compact] := by
    obtain ⟨init, hinit⟩ := encode_toJson e
    rw [lines, linesFrom_single [] hfeed, List.append_nil, hinit, ← List.append_assoc, List.reverse_append]
    show [List.reverse (0x7d :: (torn file ++ init).reverse)] = _
    rw [List.reverse_cons, List.reverse_reverse]
  rw [hsplit, lines_append (complete_whole file), hline]

/-- What a file holds after an entry was added to it: the entry only if the last line was blank. -/
theorem held_append_line (file : List UInt8) (he : e.Sound) :
    held (file ++ e.line) = held (whole file) ++ if Blank (torn file) then [e] else [] := by
  rw [held, held, lines_append_line, List.filterMap_append]
  split
  · rename_i hblank
    rw [List.filterMap_cons_some (ofLine?_blank he hblank)]
    rfl
  · rename_i hblank
    rw [List.filterMap_cons_none (ofLine?_torn he hblank)]
    rfl

/-- A file goes on after its last line feed. -/
theorem held_whole_torn (file : List UInt8) : held file = held (whole file) ++ held (torn file) := by
  conv_lhs => rw [← whole_append_torn file]
  rw [held, lines_append (complete_whole file), List.filterMap_append]
  rfl

/-- After an entry was added to a file, its first entry for a text is the one that was the first before, or the
new one. -/
theorem first?_append_line {file : List UInt8} {text : String} {first : CacheEntry} (he : e.Sound)
    (h : first? (file ++ e.line) text = some first) :
    first? file text = some first ∨ first = e ∧ e.queryText = text := by
  rw [first?, held_append_line file he, List.find?_append] at h
  rw [first?, held_whole_torn, List.find?_append]
  cases hwhole : (held (whole file)).find? (·.queryText == text) with
  | some old =>
    left
    rw [hwhole] at h
    exact h
  | none =>
    right
    rw [hwhole, Option.none_or] at h
    have hnew : first = e := by
      have hmem := List.mem_of_find?_eq_some h
      split at hmem
      · exact List.mem_singleton.mp hmem
      · cases hmem
    subst hnew
    have htext := List.find?_some h
    exact ⟨rfl, beq_iff_eq.mp htext⟩

/-! ### Later uses -/

/-- The entry that a use adds. -/
def Use.added : Use → Option CacheEntry
  | put w queryText plan model => if w.fails then none else some ⟨queryText, plan, model, w.now⟩
  | reopen => none

/-- What the file holds after a use, if its lines were complete. -/
theorem held_use {u : Use} (hfile : Complete c.file) (hu : u.Sound) :
    Complete (u.step c).file ∧ held (u.step c).file = held c.file ++ u.added.toList := by
  cases u with
  | reopen => exact ⟨hfile, (List.append_nil _).symm⟩
  | put w queryText plan model =>
    cases hfails : w.fails with
    | true =>
      rw [Use.step, Use.added, put?, hfails]
      exact ⟨hfile, (List.append_nil _).symm⟩
    | false =>
      have hheld : held (c.file ++ CacheEntry.line ⟨queryText, plan, model, w.now⟩) =
          held c.file ++ [⟨queryText, plan, model, w.now⟩] := by
        rw [held, lines_append hfile, lines_line, List.filterMap_append,
          List.filterMap_cons_some (CacheEntry.ofLine?_line hu)]
        rfl
      rw [Use.step, Use.added, put?, hfails]
      exact ⟨complete_line _ _, hheld⟩

theorem held_uses {us : List Use} (hfile : Complete c.file) (hus : ∀ u ∈ us, u.Sound) :
    held (run c us).file = held c.file ++ us.filterMap Use.added := by
  induction us generalizing c with
  | nil => exact (List.append_nil _).symm
  | cons u us ih =>
    obtain ⟨hu, hrest⟩ := List.forall_mem_cons.mp hus
    obtain ⟨hcomplete, hheld⟩ := held_use hfile hu
    have hrun : held (run (u.step c) us).file = _ := ih hcomplete hrest
    rw [run, List.foldl_cons, ← run, hrun, hheld, List.append_assoc, List.filterMap_cons]
    cases u.added <;> rfl

variable {w : Writing} {queryText model : String} {plan : Plan} {us : List Use}

/-- What a file holds after an entry was added and more was done. -/
theorem held_put_uses (he : CacheEntry.Sound ⟨queryText, plan, model, w.now⟩)
    (hput : c.put? w queryText plan model = some c') (hus : ∀ u ∈ us, u.Sound) :
    held (run c' us).file = held (whole c.file) ++
      (if Blank (torn c.file) then [⟨queryText, plan, model, w.now⟩] else []) ++ us.filterMap Use.added := by
  unfold put? at hput
  split at hput
  · cases hput
  · cases hput
    rw [held_uses (complete_line _ _) hus, held_append_line _ he]

/-- Whatever bytes a cache file holds, and whatever is added later: after its file is opened again, a text for
which an entry was added has one exactly if an earlier line is one, or the file did not end within a line that is
not blank, or an entry for the text was added later. -/
theorem found_reopened_iff (he : CacheEntry.Sound ⟨queryText, plan, model, w.now⟩)
    (hput : c.put? w queryText plan model = some c') (hus : ∀ u ∈ us, u.Sound) :
    ((Use.reopen.step (run c' us)).get? queryText).isSome ↔
      (first? (whole c.file) queryText).isSome ∨ Blank (torn c.file) ∨
        ∃ u ∈ us, ∃ e ∈ u.added, e.queryText = queryText := by
  show ((openFile (run c' us).file).get? queryText).isSome ↔ _
  rw [get?_openFile, first?, first?, held_put_uses he hput hus]
  simp only [List.find?_isSome, List.mem_append, List.mem_filterMap, beq_iff_eq]
  constructor
  · rintro ⟨e, (hfirst | hadded) | ⟨u, hu, hlater⟩, htext⟩
    · exact .inl ⟨e, hfirst, htext⟩
    · split at hadded
      · exact .inr (.inl ‹_›)
      · cases hadded
    · exact .inr (.inr ⟨u, hu, e, hlater, htext⟩)
  · rintro (⟨e, hfirst, htext⟩ | hblank | ⟨u, hu, e, hlater, htext⟩)
    · exact ⟨e, .inl (.inl hfirst), htext⟩
    · exact ⟨_, .inl (.inr (by rw [if_pos hblank]; exact List.mem_singleton_self _)), rfl⟩
    · exact ⟨e, .inr ⟨u, hu, hlater⟩, htext⟩

/-- After a blank that no line feed follows, an entry is found again. -/
theorem found_reopened_blank : ((Use.reopen.step (run ⟨[0x20] ++ (plainEntry "q" "model").line,
    [("q", plainEntry "q" "model")]⟩ [.reopen])).get? "q").isSome := by
  have hput : (openFile [0x20]).put? ⟨⟨0, 0⟩, false⟩ "q" (Plan.ofText "q") "model" =
      some ⟨[0x20] ++ (plainEntry "q" "model").line, [("q", plainEntry "q" "model")]⟩ := rfl
  have hblank : Blank (torn [0x20]) := by decide
  have huses : ∀ u ∈ [Use.reopen], u.Sound := List.forall_mem_singleton.mpr trivial
  exact (found_reopened_iff (sound_plainEntry "q" "model") hput huses).mpr (.inr (.inl hblank))

/-- After the start of an object that no line feed follows, an entry is added and can be looked up, but not after
the file is opened again. -/
theorem lost_reopened : ∃ c', (openFile [0x7b, 0x22]).put? ⟨⟨0, 0⟩, false⟩ "q" (Plan.ofText "q") "model" = some c' ∧
    c'.get? "q" = some (plainEntry "q" "model") ∧ (Use.reopen.step c').get? "q" = none := by
  refine ⟨_, rfl, rfl, ?_⟩
  show (openFile ([0x7b, 0x22] ++ (plainEntry "q" "model").line)).get? "q" = none
  rw [get?_openFile, first?, held_append_line _ (sound_plainEntry "q" "model"), if_neg (by decide)]
  rfl

end Catalogue.Cache
