import Catalogue.Proofs.Model.Session

/-! The filters of plans that a language model gives. They are among those that can be read
in its answer (`mem_readableFilters`). So what holds of the filters in all answers that a
provider gives, holds of the filters of every plan that is cached in a run (`holds_run`)
and of every plan that a compiler returns after it (`Compiler.Returns.holds`). -/
namespace Catalogue.Model

open Json

variable {σ : Type}

/-! ### Filters in answers -/

/-- The filters in an answer, as far as it can be read. -/
def readableFilters (answer : String) : List Filter :=
  match extractObject answer with
  | .error _ => []
  | .ok object =>
    match decodeValue Answer.shape.read object with
    | .error _ => []
    | .ok a => a.filters.filterMap fun v => (decodeValue Filter.read v).toOption

/-- The filters of the plan in an answer are filters in the answer. -/
theorem mem_readableFilters {model queryText answer : String} {object : Json} {p : Plan}
    (hobject : extractObject answer = .ok object) (h : planOf model queryText object = .ok p) :
    ∀ f ∈ p.filters, f ∈ readableFilters answer := by
  obtain ⟨a, ha, hfilters⟩ := filters_planOf h
  intro f hf
  obtain ⟨v, hv, hread⟩ := mem_filtersFrom hfilters f hf
  simp only [readableFilters, hobject, ha]
  exact List.mem_filterMap.mpr ⟨v, hv, by rw [hread]; rfl⟩

/-- From the states that satisfy `I`, which it does not leave, the provider gives answers all of whose
filters satisfy `P`. -/
structure Compiler.Gives (c : Compiler σ) (I : σ → Prop) (P : Filter → Prop) : Prop where
  filters : ∀ r s answer, I s → (c.provider.complete r s).1 = .ok answer → ∀ f ∈ readableFilters answer, P f
  state : ∀ r s, I s → I (c.provider.complete r s).2

/-- Every filter that can be read keeps the rules. -/
theorem Compiler.gives_valid (c : Compiler σ) : c.Gives (fun _ => True) Filter.Valid := by
  refine ⟨fun r s answer _ _ f hf => ?_, fun _ _ _ => trivial⟩
  unfold readableFilters at hf
  split at hf
  · cases hf
  · split at hf
    · cases hf
    · obtain ⟨v, -, hv⟩ := List.mem_filterMap.mp hf
      cases hread : decodeValue Filter.read v with
      | error e =>
        rw [hread] at hv
        cases hv
      | ok g =>
        rw [hread] at hv
        cases hv
        exact (Filter.sound_of_read hread).valid

namespace Compiler

variable {c : Compiler σ} {I : σ → Prop} {P : Filter → Prop} {s : σ}

theorem Gives.recorded (h : c.Gives I P) : c.recorded.Gives (fun s => I s.1) P :=
  ⟨fun r s => h.filters r s.1, fun r s => h.state r s.1⟩

theorem Gives.ask (h : c.Gives I P) (hs : I s) (prompt : String) : I (c.ask prompt s).2 ∧
    ∀ answer, (c.ask prompt s).1 = .ok answer → ∀ f ∈ readableFilters answer, P f :=
  ⟨h.state _ s hs, fun answer => h.filters _ s answer hs⟩

/-- An object that is asked for is that of some answer, to the prompt or to the request for a repair. -/
theorem Gives.askObject (h : c.Gives I P) (hs : I s) (prompt : String) : I (c.askObject prompt s).2 ∧
    ∀ object, (c.askObject prompt s).1 = .ok object →
      ∃ answer, extractObject answer = .ok object ∧ ∀ f ∈ readableFilters answer, P f := by
  obtain ⟨hstate, hfilters⟩ := h.ask hs prompt
  unfold Compiler.askObject
  rw [bind_apply]
  cases hanswer : (c.ask prompt s).1 with
  | error e =>
    simp only [pure_apply]
    exact ⟨hstate, nofun⟩
  | ok answer =>
    cases hobject : extractObject answer with
    | ok object =>
      simp only [hobject, pure_apply]
      refine ⟨hstate, fun found hfound => ⟨answer, ?_, hfilters answer hanswer⟩⟩
      cases hfound
      exact hobject
    | error problem =>
      simp only [hobject]
      by_cases hrepair : c.repair = true
      · obtain ⟨hstate', hfilters'⟩ := h.ask hstate (repairPrompt prompt answer problem.message)
        rw [if_pos hrepair, bind_apply]
        cases hrepaired : (c.ask (repairPrompt prompt answer problem.message) (c.ask prompt s).2).1 with
        | error e =>
          simp only [pure_apply]
          exact ⟨hstate', nofun⟩
        | ok repaired =>
          simp only [pure_apply]
          refine ⟨hstate', fun found hfound => ⟨repaired, ?_, hfilters' repaired hrepaired⟩⟩
          cases hextract : extractObject repaired with
          | error e =>
            rw [hextract] at hfound
            cases hfound
          | ok object =>
            rw [hextract] at hfound
            cases hfound
            rfl
      · rw [if_neg hrepair, pure_apply]
        exact ⟨hstate, nofun⟩

theorem Gives.requestPlan (h : c.Gives I P) (hs : I s) (queryText prompt : String) :
    I (c.requestPlan queryText prompt s).2 ∧
      ∀ p, (c.requestPlan queryText prompt s).1 = .ok p → ∀ f ∈ p.filters, P f := by
  obtain ⟨hstate, hobjects⟩ := h.askObject hs prompt
  refine ⟨hstate, fun p hp f hf => ?_⟩
  rw [requestPlan_fst] at hp
  obtain ⟨object, hobject, hplan⟩ := bind_eq_ok.mp hp
  obtain ⟨answer, hextract, hfilters⟩ := hobjects object hobject
  exact hfilters f (mem_readableFilters hextract hplan f hf)

end Compiler

/-! ### Filters in sessions -/

/-- The provider's state satisfies `I`, and the filters of all cached plans satisfy `P`. -/
structure Session.Holds (s : Session σ) (I : σ → Prop) (P : Filter → Prop) : Prop where
  provider : I s.provider
  cached : ∀ k, s.cache = some k → ∀ e ∈ k.entries, ∀ f ∈ e.2.plan.filters, P f

section Sessions
variable {c : Compiler σ} {s : Session σ} {I : σ → Prop} {P : Filter → Prop}

theorem Session.Holds.of_cached? (hs : s.Holds I P) {queryText : String} {e : CacheEntry}
    (h : s.cached? queryText = some e) : ∀ f ∈ e.plan.filters, P f := by
  obtain ⟨k, hk, hget⟩ := Option.bind_eq_some_iff.mp h
  obtain ⟨found, hfound, rfl⟩ := Option.map_eq_some_iff.mp hget
  exact hs.cached k hk found (List.mem_of_find?_eq_some hfound)

/-- What is remembered after a plan was asked for. -/
theorem holds_updated {k : Cache} (hk : ∀ e ∈ k.entries, ∀ f ∈ e.2.plan.filters, P f) {w : Cache.Writing}
    {queryText : String} {result : Except CompileError Plan} (h : ∀ p, result = .ok p → ∀ f ∈ p.filters, P f) :
    ∀ e ∈ (c.updated w queryText k result).entries, ∀ f ∈ e.2.plan.filters, P f := by
  cases result with
  | error _ => exact hk
  | ok p =>
    unfold Compiler.updated Cache.put?
    by_cases hfails : w.fails = true
    · simpa only [if_pos hfails, Option.getD_none] using hk
    · simp only [if_neg hfails, Option.getD_some, Cache.remember]
      split
      · exact hk
      · intro e he
        rcases List.mem_append.mp he with he | he
        · exact hk e he
        · obtain rfl := List.mem_singleton.mp he
          exact h p rfl

theorem holds_compile (hs : s.Holds I P) (hc : c.Gives I P) (w : Cache.Writing) (queryText : String)
    (limit : Option Nat) : (c.compile w queryText limit s).2.Holds I P := by
  cases hentry : s.cached? queryText with
  | some e =>
    rw [Compiler.compile_cached _ _ _ hentry]
    exact hs
  | none =>
    rw [Compiler.compile_uncached _ _ _ hentry]
    obtain ⟨hstate, hplan⟩ := hc.requestPlan hs.provider queryText (questionPrompt queryText)
    refine ⟨hstate, fun k hk => ?_⟩
    obtain ⟨k, hk', rfl⟩ := Option.map_eq_some_iff.mp hk
    exact holds_updated (hs.cached k hk') hplan

theorem holds_retry (hs : s.Holds I P) (hc : c.Gives I P) (plan : Plan) (hints : List SubjectHint) :
    (c.retry plan hints s).2.Holds I P := by
  rw [Compiler.retry_eq]
  exact ⟨(hc.requestPlan hs.provider plan.queryText (subjectPrompt plan hints)).1, hs.cached⟩

/-- The plans that a compiler returns in a session, for a question or for a plan that found nothing. -/
inductive Compiler.Returns (c : Compiler σ) (s : Session σ) : Plan → Prop where
  | compile {w : Cache.Writing} {queryText : String} {limit : Option Nat} {p : Plan}
      (h : (c.compile w queryText limit s).1 = .ok p) : Returns c s p
  | retry {plan : Plan} {hints : List SubjectHint} {p : Plan} (h : (c.retry plan hints s).1 = .ok p) : Returns c s p

/-- What holds of all filters in answers and in the cache holds of those of a plan that is returned. -/
theorem Compiler.Returns.holds {p : Plan} (h : c.Returns s p) (hs : s.Holds I P) (hc : c.Gives I P) :
    ∀ f ∈ p.filters, P f := by
  cases h with
  | @compile w queryText limit _ h =>
    cases hentry : s.cached? queryText with
    | some e =>
      rw [Compiler.compile_cached _ _ _ hentry] at h
      cases h
      exact hs.of_cached? hentry
    | none =>
      rw [Compiler.compile_uncached _ _ _ hentry] at h
      obtain ⟨fresh, hfresh, rfl⟩ := map_eq_ok.mp h
      exact (hc.requestPlan hs.provider _ _).2 fresh hfresh
  | retry h =>
    obtain ⟨q, rfl, hq⟩ := retry_eq_ok h
    exact (hc.requestPlan hs.provider _ _).2 q hq

end Sessions

/-! ### Filters in runs -/

section Runs
variable {s : Session (σ × List Request)} {I : σ → Prop} {P : Filter → Prop}

/-- The event's compiler gives such filters only, or the provider is in such a state again. -/
def Event.Gives (I : σ → Prop) (P : Filter → Prop) : Event σ → Prop
  | compile c _ _ _ => c.Gives I P
  | retry c _ _ => c.Gives I P
  | reopen provider => I provider

theorem holds_step (hkept : s.Kept) (hs : s.Holds (fun t => I t.1) P) {e : Event σ} (he : e.Gives I P) :
    (e.step s).Holds (fun t => I t.1) P := by
  cases e with
  | compile c w queryText limit => exact holds_compile hs (Compiler.Gives.recorded he) w queryText limit
  | retry c plan hints => exact holds_retry hs (Compiler.Gives.recorded he) plan hints
  | reopen provider =>
    refine ⟨he, fun k hk => ?_⟩
    -- What is read from the file again is what was remembered, so nothing new is cached.
    obtain ⟨old, hold, hsame⟩ := hkept
    have hk' : some (Cache.openFile old.file) = some k := by
      rw [← hk]
      show _ = s.cache.map _
      rw [hold]
      rfl
    obtain rfl := Option.some.inj hk'
    rw [hsame.same]
    exact hs.cached old hold

theorem holds_run (hkept : s.Kept) (hs : s.Holds (fun t => I t.1) P) {es : List (Event σ)}
    (hes : ∀ e ∈ es, e.Timely) (hgives : ∀ e ∈ es, e.Gives I P) : (run s es).Holds (fun t => I t.1) P := by
  induction es generalizing s with
  | nil => exact hs
  | cons e es ih =>
    obtain ⟨he, hrest⟩ := List.forall_mem_cons.mp hes
    obtain ⟨hgive, hgiven⟩ := List.forall_mem_cons.mp hgives
    exact ih (kept_step hkept he) (holds_step hkept hs hgive) hrest hgiven

/-- With a file that nothing else wrote to, every cached plan comes from an answer. -/
theorem holds_run_opened (provider : σ) (hprovider : I provider) {es : List (Event σ)}
    (hes : ∀ e ∈ es, e.Timely) (hgives : ∀ e ∈ es, e.Gives I P) :
    (run (opened provider []) es).Holds (fun t => I t.1) P := by
  have hempty : Cache.Complete [] := nofun
  refine holds_run (kept_opened provider hempty) ⟨hprovider, fun k hk => ?_⟩ hes hgives
  obtain rfl := Option.some.inj hk
  exact List.forall_mem_nil _

end Runs
end Catalogue.Model
