import Catalogue.Proofs.Index.Reference
import Catalogue.Proofs.Model.Filters
import Catalogue.Proofs.Question.Compile
import Catalogue.Service.Basic

/-! Questions that cannot be asked of an index. A service reports an error of its own exactly
if the plan that its compiler returned has no statement (`query_eq_internal`). A plan that
phrases gave always has one. A plan that a language model gave, asked for or found in the
cache, has one exactly if it asks for no comparison that its field does not have; this is
left to the model, and nothing else stands between its answer and the cache
(`run_translates`, `compile_untranslatable`). -/
namespace Catalogue

open Index (Statement)
open Model

/-! ### Errors of a service -/

namespace Service

open Model.Compiler (bind_apply pure_apply)

variable {σ : Type}

/-- An error of the service's own is that of a plan without a statement. -/
theorem run_eq_internal {s : Service σ} {ix : Index} {p : Plan} {facets : Bool} {st : σ} {detail : String} :
    (s.run ix p facets st).1 = .error (.internal detail) ↔
      ∃ e, Statement.ofPlan p = .error e ∧ e.message = detail := by
  unfold run
  rw [bind_apply]
  have honce := Index.executeOnce_eq ix p
  cases hs : Statement.ofPlan p with
  | error e =>
    rw [hs] at honce
    rw [Index.execute_of_error honce]
    simp [pure_apply, ServiceError.ofExecution]
  | ok u =>
    rw [hs] at honce
    simp only at honce
    cases hrun : u.run ix with
    | error fault =>
      rw [hrun] at honce
      rw [Index.execute_of_error honce]
      simp [pure_apply, ServiceError.ofExecution]
    | ok ms =>
      rw [hrun] at honce
      obtain ⟨o, st', ho⟩ : ∃ o st', Index.execute ix s.retry s.subjectHints p st = (.ok o, st') :=
        Index.execute_of_executeOnce honce
      rw [ho]
      simp only [pure_apply, Service.facets]
      split
      · split <;> simp [Except.map]
      · simp [Except.map]

/-- An error of the service's own is that of a plan without a statement that its compiler returned. -/
theorem query_eq_internal {s : Service σ} {ix : Index} {text : String} {limit : Option Nat} {facets : Bool}
    {st : σ} {detail : String} : (s.query (.ok ix) text limit facets st).1 = .error (.internal detail) ↔
      ∃ p e, (s.compile text limit st).1 = .ok p ∧ Statement.ofPlan p = .error e ∧ e.message = detail := by
  unfold query plan
  rw [bind_apply, bind_apply]
  cases hplan : (s.compile text limit st).1 with
  | error e => simp [pure_apply, Except.mapError]
  | ok p =>
    show (s.run ix p facets _).1 = _ ↔ _
    simp [run_eq_internal]

end Service

/-! ### Runs -/

variable {σ : Type}

/-- Every plan that phrases gave has a statement. So has, after whatever was done with a cache file that
nothing else wrote to, every plan that a compiler returns whose filters all ask for comparisons that their
fields have, and no other; and as long as all answers keep to these, every plan that is returned or cached
has a statement, and no question ends in an error of the service's own. -/
theorem Model.run_translates (provider : σ) {es : List (Event σ)} (hes : ∀ e ∈ es, e.Timely) (c : Compiler σ) :
    (∀ text limit, (Question.compile text limit).Translates) ∧
      (∀ p, c.recorded.Returns (run (opened provider []) es) p →
        (p.Translates ↔ ∀ f ∈ p.filters, f.Supported)) ∧
      ∀ I : σ → Prop, I provider → c.Gives I Filter.Supported → (∀ e ∈ es, e.Gives I Filter.Supported) →
        (∀ p, c.recorded.Returns (run (opened provider []) es) p → p.Translates) ∧
        (∀ k, (run (opened provider []) es).cache = some k → ∀ e ∈ k.entries, e.2.plan.Translates) ∧
        ∀ w ix text limit facets detail,
          ((Service.ofModel c.recorded w).query (.ok ix) text limit facets (run (opened provider []) es)).1 ≠
            .error (.internal detail) := by
  have hgives : ∀ e ∈ es, e.Gives (fun _ => True) Filter.Valid := by
    rintro (⟨c, _⟩ | ⟨c, _⟩ | _) _
    · exact c.gives_valid
    · exact c.gives_valid
    · trivial
  have hvalid := holds_run_opened provider trivial hes hgives
  generalize hs : run (opened provider []) es = s at hvalid
  have hreturned {p : Plan} (hp : c.recorded.Returns s p) : p.Translates ↔ ∀ f ∈ p.filters, f.Supported :=
    Index.translates_iff (hp.holds hvalid c.gives_valid.recorded)
  refine ⟨Question.translates_compile, fun p => hreturned, fun I hprovider hc hall => ?_⟩
  have hsupported := holds_run_opened provider hprovider hes hall
  rw [hs] at hsupported
  have hplans {p : Plan} (hp : c.recorded.Returns s p) : p.Translates :=
    (hreturned hp).mpr (hp.holds hsupported hc.recorded)
  refine ⟨fun p => hplans, fun k hk e he => ?_, fun w ix text limit facets detail hinternal => ?_⟩
  · exact (Index.translates_iff (hvalid.cached k hk e he)).mpr (hsupported.cached k hk e he)
  · obtain ⟨p, e, hcompile, hfails, -⟩ := Service.query_eq_internal.mp hinternal
    obtain ⟨u, hu⟩ := hplans (.compile hcompile)
    rw [hfails] at hu
    cases hu

namespace Model

/-- An answer that asks for a year. -/
def yearAnswer (op : String) : String :=
  "\x7b\"filters\": [\x7b\"field\": \"year\", \"op\": \"" ++ op ++ "\", \"value\": \"1550\"\x7d]\x7d"

/-- Scripts whose answers ask for no comparison that a field does not have. -/
def Supporting (script : List (Except CompileError String)) : Prop :=
  ∀ answer, .ok answer ∈ script → ∀ f ∈ readableFilters answer, f.Supported

theorem gives_scripted : scripted.Gives Supporting Filter.Supported := by
  constructor
  · rintro r (- | ⟨answer, rest⟩) found hs hfound
    · cases hfound
    · exact hs found (hfound ▸ List.mem_cons_self)
  · rintro r (- | ⟨answer, rest⟩) hs
    · exact hs
    · exact fun found hfound => hs found (List.mem_cons_of_mem answer hfound)

theorem supporting_equals : Supporting [.ok (yearAnswer "equals")] := by
  intro answer hanswer
  obtain rfl := Except.ok.inj (List.mem_singleton.mp hanswer)
  decide +kernel

/-- A year that is asked for and found in the cache again has a statement. -/
theorem run_translates_equals :
    let s := run (opened [.ok (yearAnswer "equals")] []) [.compile scripted atStart "q" none]
    ∃ p, (scripted.recorded.compile atStart "q" none s).1 = .ok p ∧ p.fields = [.year] ∧ p.Translates := by
  intro s
  have hnow : atStart.now.Valid := ⟨by decide +kernel, by decide, by decide⟩
  have hevents : ∀ e ∈ [Event.compile scripted atStart "q" none], e.Timely := List.forall_mem_singleton.mpr hnow
  have hgives : ∀ e ∈ [Event.compile scripted atStart "q" none], e.Gives Supporting Filter.Supported :=
    List.forall_mem_singleton.mpr gives_scripted
  obtain ⟨-, -, htranslates⟩ := run_translates _ hevents scripted
  obtain ⟨hplans, -⟩ := htranslates Supporting supporting_equals gives_scripted hgives
  have hfields : (scripted.recorded.compile atStart "q" none s).1.toOption.map Plan.fields = some [.year] := by
    decide +kernel
  cases hp : (scripted.recorded.compile atStart "q" none s).1 with
  | error e =>
    rw [hp] at hfields
    cases hfields
  | ok p =>
    rw [hp] at hfields
    exact ⟨p, rfl, Option.some.inj hfields, hplans p (.compile hp)⟩

/-- A model that asks for years that contain some digits is believed: the plan has no statement, but it is
returned and cached, and the person who asked is told of an error of the service's own. -/
theorem compile_untranslatable :
    let s := opened [.ok (yearAnswer "contains")] []
    let out := scripted.recorded.compile atStart "q" none s
    ∃ p, out.1 = .ok p ∧ ¬p.Translates ∧
      (out.2.cached? "q").map (·.plan.filters) = some p.filters ∧
      ((Service.ofModel scripted.recorded atStart).query (.ok Index.shelf) "q" none false s).1 =
        .error (.internal "filter #0: `year contains` has no SQL translation") := by
  intro s out
  have hfails : out.1.toOption.map Statement.ofPlan = some (.error ⟨0, .year, .contains⟩) := by decide +kernel
  have hcached : out.1.toOption.map (·.filters) = (out.2.cached? "q").map (·.plan.filters) := by decide +kernel
  cases hp : out.1 with
  | error e =>
    rw [hp] at hfails
    cases hfails
  | ok p =>
    rw [hp] at hfails hcached
    have hfails' : Statement.ofPlan p = .error ⟨0, .year, .contains⟩ := Option.some.inj hfails
    refine ⟨p, rfl, fun ⟨u, hu⟩ => ?_, hcached.symm, Service.query_eq_internal.mpr ⟨p, _, hp, hfails', by decide⟩⟩
    rw [hfails'] at hu
    cases hu

end Model
end Catalogue
