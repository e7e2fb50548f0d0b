import Catalogue.Proofs.Index.Support
import Catalogue.Question.Compile

/-! Plans that are found by phrases. A phrase gives a text for a publisher, a place or a
language, or the bounds of a span of years, and nothing else; so every such plan has a
statement (`translates_compile`). -/
namespace Catalogue.Question

/-- A filter that some phrase can give. -/
def FromPhrase (f : Filter) : Prop :=
  (∃ field ≠ Field.year, ∃ s, Filter.equals? field s = .ok f) ∨
    ∃ first last, Filter.range? .year first last = .ok f

/-- Whatever a phrase gives can be asked of an index. -/
theorem FromPhrase.supported {f : Filter} (h : FromPhrase f) : f.Valid ∧ f.Supported := by
  rcases h with ⟨field, hfield, s, hf⟩ | ⟨first, last, hf⟩
  · refine ⟨Filter.valid_make hf, ?_⟩
    obtain ⟨w, -, rfl⟩ := Filter.make?_eq_ok hf
    simp [Filter.Supported, hfield]
  · refine ⟨Filter.valid_make hf, ?_⟩
    obtain ⟨w, -, rfl⟩ := Filter.make?_eq_ok hf
    simp [Filter.Supported]

theorem filter_of_finding? {family phrase : String} {x : Except FilterError Filter} {g : Finding}
    (h : finding? family phrase x = some g) : x = .ok g.filter := by
  unfold finding? at h
  split at h
  · cases h
    rfl
  · cases h

/-- A text that a phrase gives becomes a filter on that text. -/
theorem fromPhrase_text {field : Field} (hfield : field ≠ .year) {family : String} {found : Option (String × String)}
    {g : Finding} (h : (found.bind fun m => finding? family m.1 (Filter.equals? field m.2)) = some g) :
    FromPhrase g.filter := by
  obtain ⟨m, -, hm⟩ := Option.bind_eq_some_iff.mp h
  exact .inl ⟨field, hfield, m.2, filter_of_finding? hm⟩

theorem fromPhrase_years {text : List Char} {g : Finding} (h : (years? text).1 = some g) : FromPhrase g.filter := by
  unfold years? at h
  split at h
  · split at h
    · exact .inr ⟨_, _, filter_of_finding? h⟩
    · exact .inr ⟨_, _, filter_of_finding? h⟩
  · cases h

/-- The filters of a plan are those of the phrases that are found. -/
theorem filters_compile (queryText : String) (limit : Option Nat) : (compile queryText limit).filters =
    ([publisher? queryText.toList, (years? queryText.toList).1, place? queryText.toList,
      language? queryText.toList].filterMap id).map (·.filter) := by
  unfold compile
  simp only
  split <;> rfl

theorem limit_compile (queryText : String) (limit : Option Nat) :
    (compile queryText limit).limit = Plan.positive limit := by
  unfold compile
  simp only
  split <;> rfl

/-- The filters of a plan come from phrases. -/
theorem fromPhrase_compile (queryText : String) (limit : Option Nat) :
    ∀ f ∈ (compile queryText limit).filters, FromPhrase f := by
  intro f hf
  rw [filters_compile] at hf
  obtain ⟨g, hg, rfl⟩ := List.mem_map.mp hf
  simp only [List.mem_filterMap, List.mem_cons, List.not_mem_nil, or_false, id_eq, exists_eq_right] at hg
  rcases hg with hg | hg | hg | hg
  · exact fromPhrase_text (by decide) hg.symm
  · exact fromPhrase_years hg.symm
  · exact fromPhrase_text (by decide) hg.symm
  · exact fromPhrase_text (by decide) hg.symm

/-- Every plan that is found by phrases has a statement. -/
theorem translates_compile (queryText : String) (limit : Option Nat) : (compile queryText limit).Translates :=
  (Index.translates_iff fun f hf => (fromPhrase_compile queryText limit f hf).supported.1).mpr
    fun f hf => (fromPhrase_compile queryText limit f hf).supported.2

end Catalogue.Question
