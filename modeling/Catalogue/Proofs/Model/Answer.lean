import Catalogue.Model.Answer
import Catalogue.Proofs.Plan.Codec

/-! The plan in a language model's answer. Its filters have been read, so they keep all
rules, and its debug values are texts. Whatever the model says, the plan is one of the
current version for the question that was asked, and has no limit (`fresh_planOf`). -/
namespace Catalogue.Model

open Json

/-- A sound plan of the current version for a question, without a limit and with plain debug values. -/
structure Fresh (queryText : String) (p : Plan) : Prop where
  version : p.version = Plan.currentVersion
  text : p.queryText = queryText
  sound : p.Sound
  limit : p.limit = none
  debug : ∀ e ∈ p.debug, e.2.depth = 0

theorem fresh_ofText {filters : List Filter} (h : ∀ f ∈ filters, f.Sound) (queryText : String) :
    Fresh queryText ((Plan.ofText queryText).withFilters filters) := by
  have hsound := Plan.sound_ofText queryText
  exact ⟨rfl, rfl, ⟨h, hsound.softFilters, hsound.limit, hsound.keys, hsound.debug⟩, rfl, List.forall_mem_nil _⟩

theorem fresh_withDebug {queryText : String} {p : Plan} (h : Fresh queryText p) (key text : String) :
    Fresh queryText (p.withDebug key (.str text)) := by
  refine ⟨h.version, h.text, Plan.sound_withDebug h.sound key ⟨.str text, .str text⟩, h.limit, fun e he => ?_⟩
  rcases Entries.mem_insert he with rfl | he
  · rfl
  · exact h.debug e he

/-- Filters that are accepted have been read. -/
theorem mem_filtersFrom {i : Nat} {vs : List Json} {filters : List Filter}
    (h : Answer.filtersFrom i vs = .ok filters) : ∀ f ∈ filters, ∃ v ∈ vs, decodeValue Filter.read v = .ok f := by
  induction vs generalizing i filters with
  | nil =>
    cases h
    exact List.forall_mem_nil _
  | cons v vs ih =>
    rw [Answer.filtersFrom] at h
    split at h
    · rename_i f hf
      obtain ⟨rest, hrest, rfl⟩ := map_eq_ok.mp h
      refine List.forall_mem_cons.mpr ⟨⟨v, List.mem_cons_self, hf⟩, fun g hg => ?_⟩
      obtain ⟨w, hw, hread⟩ := ih hrest g hg
      exact ⟨w, List.mem_cons_of_mem v hw, hread⟩
    · cases h

/-- Filters that are accepted keep all rules. -/
theorem sound_filtersFrom {i : Nat} {vs : List Json} {filters : List Filter}
    (h : Answer.filtersFrom i vs = .ok filters) : ∀ f ∈ filters, f.Sound := by
  intro f hf
  obtain ⟨v, -, hv⟩ := mem_filtersFrom h f hf
  exact Filter.sound_of_read hv

/-- The plan in an object: the object is an answer that gives no reason against one, its filters can all be
read, and its explanation is kept if it is not blank. -/
theorem planOf_eq_ok {model queryText : String} {object : Json} {p : Plan}
    (h : planOf model queryText object = .ok p) : ∃ a filters,
      decodeValue Answer.shape.read object = .ok a ∧ Answer.filtersFrom 0 a.filters = .ok filters ∧
        ∃ plan, plan = (((Plan.ofText queryText).withFilters filters).withDebug Plan.Key.backend
            (.str backend)).withDebug Plan.Key.model (.str model) ∧
          (p = plan ∨ ∃ text, p = plan.withDebug Plan.Key.explanation (.str text)) := by
  cases ha : decodeValue Answer.shape.read object with
  | error e =>
    simp only [planOf, ha] at h
    cases h
  | ok a =>
    simp only [planOf, ha, pure_bind] at h
    cases hreason : Answer.nonBlank a.error with
    | some reason =>
      rw [hreason] at h
      cases h
    | none =>
    rw [hreason] at h
    obtain ⟨filters, hfilters, h⟩ := bind_eq_ok.mp h
    refine ⟨a, filters, rfl, hfilters, _, rfl, ?_⟩
    cases hexplanation : Answer.nonBlank a.explanation with
    | some text =>
      rw [hexplanation] at h
      cases h
      exact .inr ⟨text, rfl⟩
    | none =>
      rw [hexplanation] at h
      cases h
      exact .inl rfl

/-- Whatever the model answers, the plan is a fresh one for the question. -/
theorem fresh_planOf {model queryText : String} {object : Json} {p : Plan}
    (h : planOf model queryText object = .ok p) : Fresh queryText p := by
  obtain ⟨a, filters, -, hfilters, plan, rfl, hp⟩ := planOf_eq_ok h
  have hplan := fresh_withDebug (fresh_withDebug (fresh_ofText (sound_filtersFrom hfilters) queryText)
    Plan.Key.backend backend) Plan.Key.model model
  rcases hp with rfl | ⟨text, rfl⟩
  · exact hplan
  · exact fresh_withDebug hplan Plan.Key.explanation text

/-- The filters of the plan in an object are those of the answer that the object is. -/
theorem filters_planOf {model queryText : String} {object : Json} {p : Plan}
    (h : planOf model queryText object = .ok p) : ∃ a, decodeValue Answer.shape.read object = .ok a ∧
      Answer.filtersFrom 0 a.filters = .ok p.filters := by
  obtain ⟨a, filters, ha, hfilters, plan, rfl, rfl | ⟨text, rfl⟩⟩ := planOf_eq_ok h
  · exact ⟨a, ha, hfilters⟩
  · exact ⟨a, ha, hfilters⟩

/-- A fresh plan is nested no deeper than its filters. -/
theorem Fresh.depth {queryText : String} {p : Plan} (h : Fresh queryText p) : p.toJson.depth ≤ 4 :=
  Plan.depth_toJson (Nat.le_refl 2) fun e he => by
    rw [h.debug e he]
    exact Nat.zero_le _

end Catalogue.Model
