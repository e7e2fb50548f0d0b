import Catalogue.Index.Visit
import Catalogue.Proofs.Index.Like

/-! What the pattern of a text matches. Whatever the text says, its pattern has the runs at its two ends and between
them nothing but the characters of the text (`Like.pieces?_containing`), so it matches the texts that the text stands
in, but for capitals A to Z. Comparisons read two characters as a third, in patterns as in texts, and a text is escaped
to the same effect before and after (`Like.map_looseForm_containing`). A pattern that has too many bytes is not compared
at all (`length_encode_containing`). `likeTruth_containing` has all of this. -/
namespace Catalogue

namespace Text

/-- A text as it is read when it is compared. -/
def loosened (s : String) : String := String.ofList (s.toList.map looseForm)

theorem toList_loosened (s : String) : (loosened s).toList = s.toList.map looseForm := String.toList_ofList

theorem toList_asciiLowercase (s : String) : (asciiLowercase s).toList = s.toList.map Char.toLower := String.toList_ofList

/-- No character is read as the one at which patterns stop. -/
theorem zero_notMem_loosened {s : String} (h : '\x00' ∉ s.toList) : '\x00' ∉ (loosened s).toList := by
  rw [toList_loosened, List.mem_map]
  rintro ⟨c, hc, hzero⟩
  unfold looseForm at hzero
  split at hzero
  · cases hzero
  · exact h (hzero ▸ hc)

end Text

open Text

namespace Index

namespace Like

/-! ### Reading loosely -/

/-- A character with a meaning in patterns is read as itself, and no other is read as one of those. -/
theorem map_looseForm_escaped (c : Char) : (escaped c).map looseForm = escaped (looseForm c) := by
  by_cases hloose : c = '\uFFFE' ∨ c = '\uFFFF'
  · rcases hloose with rfl | rfl <;> rfl
  · have hself : looseForm c = c := by simp [looseForm, hloose]
    have hescape : looseForm '\\' = '\\' := rfl
    rw [hself]
    unfold escaped
    split <;> simp [hself, hescape]

theorem map_looseForm_containing (w : String) :
    (containing w).toList.map looseForm = (containing (loosened w)).toList := by
  have hrun : looseForm '%' = '%' := rfl
  simp only [containing, String.toList_ofList, toList_loosened, List.map_append, List.map_cons, List.map_nil, hrun,
    List.map_flatMap, List.flatMap_map, map_looseForm_escaped]

/-! ### Matching -/

/-- A text matches the pattern of another exactly if the other occurs in it, both with their capitals A to Z lowered. -/
theorem holds_containing_iff {w s : String} (hw : '\x00' ∉ w.toList) (hs : '\x00' ∉ s.toList) :
    holds (containing w).toList s.toList = true ↔ (asciiLowercase w).toList <:+: (asciiLowercase s).toList := by
  rw [holds_containing hw hs, toList_asciiLowercase, toList_asciiLowercase]
  constructor
  · rintro ⟨a, m, b, hs, hm⟩
    exact ⟨a.map Char.toLower, b.map Char.toLower, by rw [hs, List.map_append, List.map_append, hm]⟩
  · rintro ⟨a', b', hs⟩
    obtain ⟨am, b, hs, ham, -⟩ := List.map_eq_append_iff.mp hs.symm
    obtain ⟨a, m, rfl, -, hm⟩ := List.map_eq_append_iff.mp ham
    exact ⟨a, m, b, hs, hm⟩

end Like

/-! ### The length of a pattern -/

namespace Like

/-- A character with a meaning in patterns. -/
def special (c : Char) : Bool := c = '%' || c = '_' || c = '\\'

theorem length_encode_escaped (c : Char) :
    ((escaped c).flatMap String.utf8EncodeChar).length =
      (String.utf8EncodeChar c).length + if special c then 1 else 0 := by
  have hescape : (String.utf8EncodeChar '\\').length = 1 := rfl
  have hescaped : escaped c = if special c then ['\\', c] else [c] := rfl
  rw [hescaped]
  split
  · simp [hescape, Nat.add_comm]
  · simp

/-- A pattern has the bytes of its text, one more for each character that is escaped, and the two runs at its ends. -/
theorem length_encode_containing (w : String) :
    (Utf8.encode (containing w)).length = (Utf8.encode w).length + w.toList.countP special + 2 := by
  have hrun : (String.utf8EncodeChar '%').length = 1 := rfl
  have hinner (cs : List Char) : ((cs.flatMap escaped).flatMap String.utf8EncodeChar).length =
      (cs.flatMap String.utf8EncodeChar).length + cs.countP special := by
    induction cs with
    | nil => rfl
    | cons c cs ih =>
      simp only [List.flatMap_cons, List.flatMap_append, List.length_append, length_encode_escaped, ih, List.countP_cons]
      omega
  simp only [Utf8.encode, containing, String.toList_ofList, List.flatMap_append, List.flatMap_cons, List.flatMap_nil,
    List.append_nil, List.length_append, hrun, hinner]
  omega

end Like

/-- The pattern of a text can be compared if it is not too long. -/
theorem Condition.flaw?_containing {c : Condition} {columns : List ColumnText} {p w : String}
    {bound : String → Cell} (hc : c.test = .like columns p) (hw : bound p = .text (Like.containing w)) :
    c.flaw? bound =
      if (Utf8.encode w).length + w.toList.countP Like.special + 2 ≤ longestPattern then none
      else some .patternTooLong := by
  rw [Condition.flaw?, hc]
  simp only [hw, Cell.bytes, Like.length_encode_containing]
  split <;> split <;> first | rfl | omega

/-! ### Cells -/

theorem likeTruth_containing {w s : String} (hw : '\x00' ∉ w.toList) (hs : '\x00' ∉ s.toList) :
    likeTruth (.text (Like.containing w)) (.text s) =
      some (decide ((asciiLowercase (loosened w)).toList <:+: (asciiLowercase (loosened s)).toList)) := by
  have hread : likeTruth (.text (Like.containing w)) (.text s) =
      some (Like.holds (Like.containing (loosened w)).toList (loosened s).toList) := by
    rw [← Like.map_looseForm_containing, toList_loosened]
    rfl
  rw [hread, Option.some.injEq, Bool.eq_iff_iff, decide_eq_true_iff,
    Like.holds_containing_iff (zero_notMem_loosened hw) (zero_notMem_loosened hs)]

/-- A text is literal in its pattern: between the runs at the ends the pattern has the text's characters and nothing
else, so as patterns go it matches the texts that the text occurs in, but for capitals A to Z. So do the cells that are
compared with it, as they are read, unless the pattern is too long to be compared. -/
theorem containing_literal {w s : String} (hw : '\x00' ∉ w.toList) (hs : '\x00' ∉ s.toList) :
    Like.pieces? (Like.containing w).toList = some (.anyRun :: (w.toList.map .literal ++ [.anyRun])) ∧
    (Like.holds (Like.containing w).toList s.toList = true ↔
      (asciiLowercase w).toList <:+: (asciiLowercase s).toList) ∧
    likeTruth (.text (Like.containing w)) (.text s) =
      some (decide ((asciiLowercase (loosened w)).toList <:+: (asciiLowercase (loosened s)).toList)) ∧
    ∀ (c : Condition) (columns : List ColumnText) (p : String) (bound : String → Cell),
      c.test = .like columns p → bound p = .text (Like.containing w) →
      c.flaw? bound =
        if (Utf8.encode w).length + w.toList.countP Like.special + 2 ≤ longestPattern then none
        else some .patternTooLong :=
  ⟨Like.pieces?_containing w, Like.holds_containing_iff hw hs, likeTruth_containing hw hs,
    fun _ _ _ _ hc hbound => Condition.flaw?_containing hc hbound⟩

/-- What would be a run, any character and an escape stand for themselves. -/
theorem containing_literal_special :
    likeTruth (.text (Like.containing "0%_\\")) (.text "Now 50%_\\%") = some true ∧
    likeTruth (.text (Like.containing "0%_\\")) (.text "50 percent\\") = some false := by
  constructor
  · exact (containing_literal (by decide) (by decide)).2.2.1.trans (by decide +kernel)
  · exact (containing_literal (by decide) (by decide)).2.2.1.trans (by decide +kernel)

/-- A text of that many letters has a pattern that is too long. -/
theorem flaw?_letters {n : Nat} (hn : longestPattern < n + 2) {c : Condition} {columns : List ColumnText} {p : String}
    (hc : c.test = .like columns p) :
    c.flaw? (fun _ => .text (Like.containing (String.ofList (List.replicate n 'a')))) = some .patternTooLong := by
  have hletter : String.utf8EncodeChar 'a' = [97] := rfl
  have hbytes : (Utf8.encode (String.ofList (List.replicate n 'a'))).length = n := by
    simp [Utf8.encode, List.flatMap_replicate, hletter]
  rw [Condition.flaw?_containing hc rfl, hbytes, if_neg]
  omega

/-- Texts that do not occur in each other match if they are read alike, and a text of enough characters is not even
compared with itself. -/
theorem containing_readAlike :
    (likeTruth (.text (Like.containing "a\uFFFDb")) (.text "a\uFFFEb") = some true ∧
      ¬(asciiLowercase "a\uFFFDb").toList <:+: (asciiLowercase "a\uFFFEb").toList ∧
      '\x00' ∉ "a\uFFFDb".toList ∧ '\x00' ∉ "a\uFFFEb".toList) ∧
    ∃ w : String, '\x00' ∉ w.toList ∧
      Condition.flaw? (fun _ => .text (Like.containing w)) ⟨.agents, .like [⟨.agents, "agent_raw", true⟩] ":f0", false⟩ =
        some .patternTooLong := by
  refine ⟨⟨by decide +kernel, by decide +kernel, by decide, by decide⟩, String.ofList (List.replicate 49999 'a'), ?_,
    flaw?_letters (by decide) rfl⟩
  rw [String.toList_ofList]
  exact fun h => absurd (List.eq_of_mem_replicate h) (by decide)

end Index
end Catalogue
