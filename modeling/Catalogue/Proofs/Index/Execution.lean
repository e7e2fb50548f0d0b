import Catalogue.Index.Execution
import Catalogue.Proofs.Index.Runs

/-! What running a plan can do. A plan is run as it is (`executeOnce_eq`), and that is all that
happens without a hook (`execute_none`). With a hook there is one thing more: for a plan that
was run, found nothing and is worth a retry, the hook is called once, and what its answer
comes to, if anything, takes the place of the plan's own result (`execute_some`). -/
namespace Catalogue.Index

open Model (SubjectHint)

variable {σ : Type} {ix : Index} {p : Plan} {hintLimit : Nat} {st st' : σ} {o : Outcome}

/-! ### Plans as they are -/

theorem executeOnce_eq (ix : Index) (p : Plan) : ix.executeOnce p =
    match Statement.ofPlan p with
    | .error e => .error (.unsupported e)
    | .ok s =>
      match s.run ix with
      | .error e => .error (.query s.sql s.parametersText e.message)
      | .ok ms => .ok (s, ms) := by
  unfold executeOnce
  cases Statement.ofPlan p with
  | error e => rfl
  | ok s =>
    simp only [find]
    cases hrun : s.run ix <;>
      simp [Except.mapError, hrun, bind, Except.bind, pure, Except.pure]

/-- The statement of a plan that was run as it is, and what its run gave. -/
theorem run_of_executeOnce {s : Statement} {ms : List Match} (h : ix.executeOnce p = .ok (s, ms)) :
    Statement.ofPlan p = .ok s ∧ s.run ix = .ok ms := by
  rw [executeOnce_eq] at h
  split at h
  · cases h
  · rename_i s' hs
    split at h
    · cases h
    · rename_i ms' hrun
      cases h
      exact ⟨hs, hrun⟩

/-- The statement and the results of a plan that was run as it is. -/
theorem executeOnce_eq_ok {s : Statement} {ms : List Match} (h : ix.executeOnce p = .ok (s, ms)) :
    Statement.ofPlan p = .ok s ∧ ms = s.results ix := by
  obtain ⟨hs, hrun⟩ := run_of_executeOnce h
  exact ⟨hs, Statement.results_of_run hrun⟩

/-- A statement that can be run is run. -/
theorem executeOnce_of_runnable {s : Statement} (hs : Statement.ofPlan p = .ok s) (h : s.Runnable)
    (hix : ix.lost = []) : ix.executeOnce p = .ok (s, s.results ix) := by
  rw [executeOnce_eq, hs]
  show (match s.run ix with | .error _ => _ | .ok _ => _) = _
  rw [h.run_eq hix]

/-! ### Plans with a hook -/

/-- The result of a plan that is run as it is. -/
def plainResult (ix : Index) (p : Plan) : Except ExecutionError Outcome :=
  (ix.executeOnce p).map fun found => outcome p found.1 found.2 false

/-- What a hook's answer comes to. -/
def answered (ix : Index) : Except CompileError Plan → Option Outcome
  | .error _ => none
  | .ok again =>
    match ix.executeOnce again with
    | .error _ => none
    | .ok (s, ms) => some (outcome again s ms true)

theorem execute_none (ix : Index) (hintLimit : Nat) (p : Plan) (st : σ) :
    execute ix none hintLimit p st = (plainResult ix p, st) := by
  unfold execute plainResult
  cases ix.executeOnce p with
  | error e => rfl
  | ok found => rfl

theorem retryOnce_eq (ix : Index) (hook : RetryHook σ) (hintLimit : Nat) (p : Plan) (st : σ) :
    retryOnce ix hook hintLimit p st =
      match ix.subjectHints? hintLimit with
      | none => (none, st)
      | some hints => (answered ix (hook p hints st).1, (hook p hints st).2) := by
  unfold retryOnce
  cases ix.subjectHints? hintLimit with
  | none => rfl
  | some hints =>
    rcases hanswer : hook p hints st with ⟨answer, st₁⟩
    simp only [bind, StateT.bind, hanswer]
    cases answer with
    | error e => rfl
    | ok again =>
      simp only [answered]
      cases ix.executeOnce again with
      | error e => rfl
      | ok found => rfl

/-- What a hook is called with, if it is: the hints that there are for a plan that was run, found nothing
and is worth a retry. -/
def calledWith? (ix : Index) (hintLimit : Nat) (p : Plan) : Option (List SubjectHint) :=
  match ix.executeOnce p with
  | .ok (_, []) => if p.qualifiesForRetry then ix.subjectHints? (max hintLimit 1) else none
  | _ => none

theorem calledWith?_eq_some {hints : List SubjectHint} (h : calledWith? ix hintLimit p = some hints) :
    ∃ s, ix.executeOnce p = .ok (s, []) ∧ p.qualifiesForRetry = true ∧
      ix.subjectHints? (max hintLimit 1) = some hints := by
  unfold calledWith? at h
  split at h
  · rename_i s honce
    split at h
    · rename_i hworth
      exact ⟨s, honce, hworth, h⟩
    · cases h
  · cases h

/-- All that running a plan with a hook can do: run it as it is, or call the hook, once, and take what its
answer comes to, if anything, in place of the plan's own result. -/
theorem execute_some (ix : Index) (hook : RetryHook σ) (hintLimit : Nat) (p : Plan) (st : σ) :
    execute ix (some hook) hintLimit p st =
      match calledWith? ix hintLimit p with
      | none => (plainResult ix p, st)
      | some hints =>
        ((answered ix (hook p hints st).1).elim (plainResult ix p) .ok, (hook p hints st).2) := by
  unfold execute plainResult calledWith?
  cases ix.executeOnce p with
  | error e => rfl
  | ok found =>
    obtain ⟨s, ms⟩ := found
    cases ms with
    | cons => rfl
    | nil =>
      cases hworth : p.qualifiesForRetry with
      | false => rfl
      | true =>
        simp only [List.isEmpty_nil, Bool.and_self, if_true]
        simp only [bind, StateT.bind, retryOnce_eq]
        cases ix.subjectHints? (max hintLimit 1) with
        | none => rfl
        | some hints =>
          simp only
          cases answered ix (hook p hints st).1 <;> rfl

/-- A plan that found something, or is not worth a retry, calls no hook. -/
theorem calledWith?_eq_none (h : p.qualifiesForRetry = false ∨ ∃ o, plainResult ix p = .ok o ∧ o.recordIds ≠ []) :
    calledWith? ix hintLimit p = none := by
  by_contra hcalled
  obtain ⟨hints, hcalled⟩ := Option.ne_none_iff_exists'.mp hcalled
  obtain ⟨s, honce, hworth, -⟩ := calledWith?_eq_some hcalled
  rcases h with h | ⟨o, ho, hne⟩
  · rw [h] at hworth
    cases hworth
  · rw [plainResult, honce] at ho
    cases ho
    exact hne rfl

/-- Without a call, a plan is run as it is. -/
theorem execute_settled (h : calledWith? ix hintLimit p = none) (hook : Option (RetryHook σ)) :
    execute ix hook hintLimit p st = (plainResult ix p, st) := by
  cases hook with
  | none => exact execute_none ..
  | some hook => rw [execute_some, h]

/-- Hooks that do the same in states of which one is the image of the other make runs that do. -/
theorem execute_image {τ : Type} {hook : RetryHook σ} {hook' : RetryHook τ} (image : τ → σ)
    (h : ∀ hints t, hook p hints (image t) = ((hook' p hints t).1, image (hook' p hints t).2)) (t : τ) :
    execute ix (some hook) hintLimit p (image t) =
      ((execute ix (some hook') hintLimit p t).1, image (execute ix (some hook') hintLimit p t).2) := by
  rw [execute_some, execute_some]
  cases calledWith? ix hintLimit p with
  | none => rfl
  | some hints => simp only [h]

theorem qualifiesForRetry_iff : p.qualifiesForRetry = true ↔ (∃ f ∈ p.filters, f.field = .subject) ∧
    Entries.get? Plan.Key.retryAttempt p.debug ≠ some (.bool true) := by
  have hflag : p.retryAttempt = true ↔ Entries.get? Plan.Key.retryAttempt p.debug = some (.bool true) := by
    unfold Plan.retryAttempt
    cases hget : Entries.get? Plan.Key.retryAttempt p.debug with
    | none => simp
    | some v => cases v <;> simp [Json.bool?]
  rw [Plan.qualifiesForRetry, Bool.and_eq_true, Bool.not_eq_true', ← Bool.not_eq_true, hflag, and_comm]
  simp [Plan.hasFilterOn]

/-! ### Outcomes -/

theorem plainResult_eq_ok (h : plainResult ix p = .ok o) :
    ∃ s ms, ix.executeOnce p = .ok (s, ms) ∧ o = outcome p s ms false := by
  unfold plainResult at h
  cases honce : ix.executeOnce p with
  | error e =>
    rw [honce] at h
    cases h
  | ok found =>
    rw [honce] at h
    cases h
    exact ⟨found.1, found.2, rfl, rfl⟩

theorem answered_eq_some {answer : Except CompileError Plan} (h : answered ix answer = some o) :
    ∃ again s ms, answer = .ok again ∧ ix.executeOnce again = .ok (s, ms) ∧ o = outcome again s ms true := by
  unfold answered at h
  split at h
  · cases h
  · rename_i again
    split at h
    · cases h
    · rename_i s ms honce
      cases h
      exact ⟨again, s, ms, rfl, honce, rfl⟩

/-- An outcome is that of the plan as it is, or what the hook's answer comes to. -/
theorem of_execute {ix : Index} {hook : RetryHook σ} {hintLimit : Nat} {p : Plan} {st : σ} {o : Outcome}
    (h : (execute ix (some hook) hintLimit p st).1 = .ok o) : plainResult ix p = .ok o ∨
      ∃ hints, ix.subjectHints? (max hintLimit 1) = some hints ∧ answered ix (hook p hints st).1 = some o := by
  rw [execute_some] at h
  cases hcalled : calledWith? ix hintLimit p with
  | none =>
    rw [hcalled] at h
    exact .inl h
  | some hints =>
    obtain ⟨-, -, -, hhints⟩ := calledWith?_eq_some hcalled
    simp only [hcalled] at h
    cases hanswered : answered ix (hook p hints st).1 with
    | none =>
      rw [hanswered] at h
      exact .inl h
    | some found =>
      rw [hanswered] at h
      cases h
      exact .inr ⟨hints, hhints, hanswered⟩

/-- An outcome is that of a plan that was run as it is; if it was not retried, of the plan that was
given. -/
theorem execute_eq_ok {hook : Option (RetryHook σ)} (h : execute ix hook hintLimit p st = (.ok o, st')) :
    (o.retried = false → o.plan = p) ∧ (hook = none → o.retried = false) ∧
      ∃ s ms, ix.executeOnce o.plan = .ok (s, ms) ∧ o = outcome o.plan s ms o.retried := by
  have hplain (h : plainResult ix p = .ok o) : (o.retried = false → o.plan = p) ∧ (hook = none → o.retried = false) ∧
      ∃ s ms, ix.executeOnce o.plan = .ok (s, ms) ∧ o = outcome o.plan s ms o.retried := by
    obtain ⟨s, ms, honce, rfl⟩ := plainResult_eq_ok h
    exact ⟨fun _ => rfl, fun _ => rfl, s, ms, honce, rfl⟩
  cases hook with
  | none =>
    rw [execute_none] at h
    exact hplain (congrArg Prod.fst h)
  | some hook =>
    rcases of_execute (congrArg Prod.fst h) with h | ⟨hints, -, hanswered⟩
    · exact hplain h
    · obtain ⟨again, s, ms, -, honce, rfl⟩ := answered_eq_some hanswered
      exact ⟨nofun, nofun, s, ms, honce, rfl⟩

/-- A plan that cannot be run as it is fails in that way, whatever hook there is. -/
theorem execute_of_error {hook : Option (RetryHook σ)} {e : ExecutionError} (h : ix.executeOnce p = .error e) :
    execute ix hook hintLimit p st = (.error e, st) := by
  have hsettled : calledWith? ix hintLimit p = none := by rw [calledWith?, h]
  rw [execute_settled hsettled, plainResult, h]
  rfl

/-- A plan that can be run has an outcome, whatever hook there is. -/
theorem execute_of_executeOnce {hook : Option (RetryHook σ)} {s : Statement} {ms : List Match}
    (h : ix.executeOnce p = .ok (s, ms)) : ∃ o st', execute ix hook hintLimit p st = (.ok o, st') := by
  have hplain : plainResult ix p = .ok (outcome p s ms false) := by
    rw [plainResult, h]
    rfl
  cases hook with
  | none => exact ⟨_, _, by rw [execute_none, hplain]⟩
  | some hook =>
    rw [execute_some, hplain]
    cases calledWith? ix hintLimit p with
    | none => exact ⟨_, _, rfl⟩
    | some hints =>
      simp only
      cases answered ix (hook p hints st).1 <;> exact ⟨_, _, rfl⟩

/-- Without a hook, a plan that can be run has one outcome. -/
theorem execute_none_eq_ok (h : execute ix none hintLimit p st = (.ok o, st')) :
    ∃ s ms, ix.executeOnce p = .ok (s, ms) ∧ o = outcome p s ms false := by
  rw [execute_none] at h
  exact plainResult_eq_ok (congrArg Prod.fst h)

end Catalogue.Index
