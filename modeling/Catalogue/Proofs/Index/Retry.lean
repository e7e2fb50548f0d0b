import Catalogue.Proofs.Index.Reference
import Catalogue.Proofs.Model.Requests

/-! Retries of plans that found nothing. The hook is called at most once. If what it gives cannot
be run, the result is the one without a hook, and in any case a result is made from one plan
and its statement; the plan of a retry by a language model says so, and is not retried
(`execute_retriesOnce`). -/
namespace Catalogue

open Model (SubjectHint Compiler Session Request)

/-- A hook that also writes down what it is called with. -/
def RetryHook.recorded {σ : Type} (hook : RetryHook σ) : RetryHook (σ × List (Plan × List SubjectHint)) :=
  fun p hints (st, calls) => ((hook p hints st).1, (hook p hints st).2, calls ++ [(p, hints)])

namespace Index

/-! ### Retries -/

section Retries
variable {σ : Type}

/-- What keeps a retry from giving a result: there are no hints to be had, the hook refuses, or the plan
that it gives has no statement, or one that fails. -/
inductive Fruitless (ix : Index) (hook : RetryHook σ) (hintLimit : Nat) (p : Plan) (st : σ) : Prop where
  | noHints (h : ix.subjectHints? (max hintLimit 1) = none)
  | refused {hints : List SubjectHint} {e : CompileError} (h : ix.subjectHints? (max hintLimit 1) = some hints)
      (hanswer : (hook p hints st).1 = .error e)
  | unsupported {hints : List SubjectHint} {again : Plan} {e : Unsupported}
      (h : ix.subjectHints? (max hintLimit 1) = some hints) (hanswer : (hook p hints st).1 = .ok again)
      (hs : Statement.ofPlan again = .error e)
  | failed {hints : List SubjectHint} {again : Plan} {s : Statement} {e : Statement.Failure}
      (h : ix.subjectHints? (max hintLimit 1) = some hints) (hanswer : (hook p hints st).1 = .ok again)
      (hs : Statement.ofPlan again = .ok s) (hrun : s.run ix = .error e)

/-- Whether all that an outcome says is of one plan: its statement gave the matches that the candidates are
made from, and it is the plan whose JSON, statement, hash and question are written. -/
structure OnePlan (ix : Index) (o : Outcome) : Prop where
  statement : Statement.ofPlan o.plan = .ok o.statement
  candidates : ∃ ms, o.statement.run ix = .ok ms ∧ o.candidates.Perm (ms.map (Match.candidate o.plan))
  written : ∀ r generatedAt milliseconds, r.outcome = o →
    let json := Terminal.resultJson r generatedAt milliseconds
    let set (key : String) := (json.get? "candidates").bind (·.get? key)
    json.get? "plan" = some o.plan.toJson ∧ json.get? "sql" = some (Terminal.statementJson o.statement) ∧
      set "query_text" = some (.str o.plan.queryText) ∧ set "plan_hash" = some (.str o.plan.hash) ∧
      set "sql" = some (.str o.statement.sql) ∧ set "candidates" = some (.arr (o.candidates.map Candidate.toJson))

theorem onePlan_outcome {ix : Index} {p : Plan} {s : Statement} {ms : List Match}
    (h : ix.executeOnce p = .ok (s, ms)) (retried : Bool) : OnePlan ix (outcome p s ms retried) := by
  obtain ⟨hs, hrun⟩ := run_of_executeOnce h
  refine ⟨hs, ⟨ms, hrun, perm_sortCandidates _⟩, ?_⟩
  rintro r generatedAt milliseconds hr
  rw [← hr]
  exact ⟨rfl, rfl, rfl, rfl, rfl, rfl⟩

/-- A plan that is run as it is gives an outcome of that plan. -/
theorem of_plainResult {ix : Index} {p : Plan} {o : Outcome} (h : plainResult ix p = .ok o) :
    o.plan = p ∧ o.retried = false ∧ OnePlan ix o := by
  obtain ⟨s, ms, honce, rfl⟩ := plainResult_eq_ok h
  exact ⟨rfl, rfl, onePlan_outcome honce false⟩

/-- What a hook's answer comes to is an outcome of the plan that it gives. -/
theorem of_answered {ix : Index} {answer : Except CompileError Plan} {o : Outcome} (h : answered ix answer = some o) :
    answer = .ok o.plan ∧ o.retried = true ∧ OnePlan ix o := by
  obtain ⟨again, s, ms, hanswer, honce, rfl⟩ := answered_eq_some h
  exact ⟨hanswer, rfl, onePlan_outcome honce true⟩

/-- Nothing comes of a fruitless retry. -/
theorem Fruitless.answered_eq_none {ix : Index} {hook : RetryHook σ} {hintLimit : Nat} {p : Plan} {st : σ}
    (h : Fruitless ix hook hintLimit p st) {hints : List SubjectHint}
    (hhints : ix.subjectHints? (max hintLimit 1) = some hints) : answered ix (hook p hints st).1 = none := by
  unfold answered
  cases h with
  | noHints h =>
    rw [h] at hhints
    cases hhints
  | refused h hanswer =>
    obtain rfl := Option.some.inj (h.symm.trans hhints)
    rw [hanswer]
  | unsupported h hanswer hs =>
    obtain rfl := Option.some.inj (h.symm.trans hhints)
    rw [hanswer]
    simp only [executeOnce_eq, hs]
  | failed h hanswer hs hrun =>
    obtain rfl := Option.some.inj (h.symm.trans hhints)
    rw [hanswer]
    simp only [executeOnce_eq, hs, hrun]

/-- An outcome of a retry is of the plan that the hook gives. -/
theorem of_retried {ix : Index} {hook : RetryHook σ} {hintLimit : Nat} {p : Plan} {st : σ} {o : Outcome}
    (h : (execute ix (some hook) hintLimit p st).1 = .ok o) (hretried : o.retried = true) :
    ∃ hints, ix.subjectHints? (max hintLimit 1) = some hints ∧ (hook p hints st).1 = .ok o.plan := by
  rcases of_execute h with hplain | ⟨hints, hhints, hanswered⟩
  · rw [(of_plainResult hplain).2.1] at hretried
    cases hretried
  · exact ⟨hints, hhints, (of_answered hanswered).1⟩

/-- What running a plan does with a hook, whose calls are written down after `calls`. -/
structure RetriesOnce (ix : Index) (hook : RetryHook σ) (hintLimit : Nat) (p : Plan) (st : σ)
    (calls : List (Plan × List SubjectHint))
    (out : Except ExecutionError Outcome × σ × List (Plan × List SubjectHint)) : Prop where
  /-- Writing down the calls changes nothing. -/
  plain : execute ix (some hook) hintLimit p st = (out.1, out.2.1)
  /-- The hook is called at most once, and only for a plan that has a statement, which was run and found
  nothing, and that asks for a subject and is no retry. -/
  called : out.2 = (st, calls) ∨ ∃ s hints, Statement.ofPlan p = .ok s ∧ s.run ix = .ok [] ∧
    (∃ f ∈ p.filters, f.field = .subject) ∧ Entries.get? Plan.Key.retryAttempt p.debug ≠ some (.bool true) ∧
    ix.subjectHints? (max hintLimit 1) = some hints ∧ out.2 = ((hook p hints st).2, calls ++ [(p, hints)])
  /-- If it is not called, or nothing comes of it, the result is that of a run without a hook. -/
  fallback : out.2.2 = calls ∨ Fruitless ix hook hintLimit p st → out.1 = (execute ix none hintLimit p st).1
  /-- A run without a hook gives the plan that was run. -/
  unretried : ∀ o, (execute ix none hintLimit p st).1 = .ok o → o.plan = p ∧ o.retried = false
  /-- So does every run that says it did not retry. -/
  kept : ∀ o, out.1 = .ok o → o.retried = false → (execute ix none hintLimit p st).1 = .ok o
  /-- A run that says it retried gives the plan that came from the hook. -/
  retried : ∀ o, out.1 = .ok o → o.retried = true →
    ∃ hints, ix.subjectHints? (max hintLimit 1) = some hints ∧ (hook p hints st).1 = .ok o.plan
  /-- In any case the outcome is of one plan. -/
  onePlan : ∀ o, out.1 = .ok o → OnePlan ix o

/-- What running a plan does with a language model for a hook, all of whose requests are written down. -/
structure RetriesByModel (ix : Index) (c : Compiler σ) (hintLimit : Nat) (p : Plan)
    (s : Session (σ × List Request))
    (out : Except ExecutionError Outcome × Session (σ × List Request)) : Prop where
  /-- Writing down the requests changes nothing. -/
  plain : execute ix (some c.retry) hintLimit p s.plain = (out.1, out.2.plain)
  /-- At most two completions are asked for. -/
  requests : ∃ asked, out.2.requests = s.requests ++ asked ∧ asked.length ≤ 2
  /-- The plan of a retry says that it is one, and of which plan; it is for the same question and has the
  same limit, where zero is none. -/
  marked : ∀ o, out.1 = .ok o → o.retried = true →
    Entries.get? Plan.Key.retryAttempt o.plan.debug = some (.bool true) ∧
      Entries.get? Plan.Key.retryOf o.plan.debug = some (.str p.hash) ∧
      o.plan.queryText = p.queryText ∧ o.plan.limit = Plan.positive p.limit
  /-- Running it again, on whatever index, calls no hook. -/
  settled : ∀ o, out.1 = .ok o → o.retried = true →
    ∀ {τ : Type} (later : Index) (hook : RetryHook τ) (limit : Nat) (st : τ) (calls : List (Plan × List SubjectHint)),
      (execute later (some hook.recorded) limit o.plan (st, calls)).2 = (st, calls)

theorem execute_hook (ix : Index) (hook : RetryHook σ) (hintLimit : Nat) (p : Plan) (st : σ)
    (calls : List (Plan × List SubjectHint)) :
    RetriesOnce ix hook hintLimit p st calls (execute ix (some hook.recorded) hintLimit p (st, calls)) := by
  have hplain : execute ix (some hook) hintLimit p st =
      ((execute ix (some hook.recorded) hintLimit p (st, calls)).1,
        (execute ix (some hook.recorded) hintLimit p (st, calls)).2.1) :=
    execute_image Prod.fst (fun _ _ => rfl) (st, calls)
  have houtcome {o : Outcome} (ho : (execute ix (some hook.recorded) hintLimit p (st, calls)).1 = .ok o) :
      (execute ix (some hook) hintLimit p st).1 = .ok o := by rw [hplain, ho]
  refine ⟨hplain, ?called, ?fallback, ?unretried, ?kept, fun o ho => of_retried (houtcome ho), ?onePlan⟩
  case called =>
    rw [execute_some]
    cases hcalled : calledWith? ix hintLimit p with
    | none => exact .inl rfl
    | some hints =>
      obtain ⟨s, honce, hworth, hhints⟩ := calledWith?_eq_some hcalled
      obtain ⟨hs, hrun⟩ := run_of_executeOnce honce
      obtain ⟨hsubject, hfirst⟩ := qualifiesForRetry_iff.mp hworth
      exact .inr ⟨s, hints, hs, hrun, hsubject, hfirst, hhints, rfl⟩
  case fallback =>
    rw [execute_some, execute_none]
    cases hcalled : calledWith? ix hintLimit p with
    | none => exact fun _ => rfl
    | some hints =>
      obtain ⟨-, -, -, hhints⟩ := calledWith?_eq_some hcalled
      rintro (hnone | hfruitless)
      · exact absurd hnone (by simp [RetryHook.recorded])
      · simp only [RetryHook.recorded, hfruitless.answered_eq_none hhints, Option.elim_none]
  case unretried =>
    rw [execute_none]
    exact fun o ho => ⟨(of_plainResult ho).1, (of_plainResult ho).2.1⟩
  case kept =>
    intro o ho hkept
    rw [execute_none]
    rcases of_execute (houtcome ho) with hplain | ⟨hints, -, hanswered⟩
    · exact hplain
    · rw [(of_answered hanswered).2.1] at hkept
      cases hkept
  case onePlan =>
    intro o ho
    rcases of_execute (houtcome ho) with hplain | ⟨hints, -, hanswered⟩
    · exact (of_plainResult hplain).2.2
    · exact (of_answered hanswered).2.2

theorem execute_model (ix : Index) (c : Compiler σ) (hintLimit : Nat) (p : Plan) (s : Session (σ × List Request)) :
    RetriesByModel ix c hintLimit p s (execute ix (some c.recorded.retry) hintLimit p s) := by
  have hmarked : ∀ o, (execute ix (some c.recorded.retry) hintLimit p s).1 = .ok o → o.retried = true →
      ∃ hints q, o.plan = Compiler.again p hints q ∧ q.queryText = p.queryText := by
    intro o ho hretried
    obtain ⟨hints, -, hplan⟩ := of_retried ho hretried
    obtain ⟨q, hq, hfresh⟩ := Compiler.retry_eq_ok hplan
    exact ⟨hints, q, hq, (Compiler.fresh_requestPlan hfresh).text⟩
  have hflag (hints : List SubjectHint) (q : Plan) :
      Entries.get? Plan.Key.retryAttempt (Compiler.again p hints q).debug = some (.bool true) := by
    simp [Compiler.again, Plan.withDebug, Entries.get?_insert, Plan.Key.retryAttempt, Plan.Key.retryHintCount,
      Plan.Key.retryOf]
  refine ⟨?plain, ?requests, ?marked, ?settled⟩
  case plain =>
    refine execute_image Session.plain (fun hints t => ?_) s
    rw [Compiler.retry_recorded, Compiler.retry_eq]
    rfl
  case requests =>
    rw [execute_some]
    cases calledWith? ix hintLimit p with
    | none => exact ⟨[], (List.append_nil _).symm, by decide⟩
    | some hints =>
      simp only [Compiler.retry_recorded]
      exact ⟨_, rfl, Compiler.length_asked_le ..⟩
  case marked =>
    intro o ho hretried
    obtain ⟨hints, q, hplan, htext⟩ := hmarked o ho hretried
    rw [hplan]
    exact ⟨hflag hints q, by simp [Compiler.again, Plan.withDebug, Entries.get?_insert], htext, rfl⟩
  case settled =>
    intro o ho hretried τ later hook limit st calls
    obtain ⟨hints, q, hplan, -⟩ := hmarked o ho hretried
    -- The plan of a retry says that it is one, and such plans are not worth another.
    have hsettled : o.plan.qualifiesForRetry = false := by
      rw [Bool.eq_false_iff, ne_eq, qualifiesForRetry_iff, hplan]
      exact fun h => h.2 (hflag hints q)
    rw [execute_settled (calledWith?_eq_none (.inl hsettled))]

/-- Running a plan retries it at most once, and nothing is left of a retry that fails. -/
theorem execute_retriesOnce (ix : Index) (hintLimit : Nat) (p : Plan) :
    (∀ {σ : Type} (hook : RetryHook σ) (st : σ) (calls : List (Plan × List SubjectHint)),
      RetriesOnce ix hook hintLimit p st calls (execute ix (some hook.recorded) hintLimit p (st, calls))) ∧
    ∀ {σ : Type} (c : Compiler σ) (s : Session (σ × List Request)),
      RetriesByModel ix c hintLimit p s (execute ix (some c.recorded.retry) hintLimit p s) :=
  ⟨fun hook st calls => execute_hook ix hook hintLimit p st calls, fun c s => execute_model ix c hintLimit p s⟩

/-- A hook that takes the first hint finds what the plan did not. -/
example :
    let ix := { empty with
      records := [⟨1, .text "r"⟩], subjects := [⟨1, [("record_id", .int 1), ("value", .text "Alchemy")]⟩] }
    let asking (s : String) := (Plan.ofText "").withFilters [⟨.subject, .equals, .text s, false, none, none⟩]
    let hook : RetryHook Unit := fun _ hints => return .ok (asking ((hints.map (·.value)).headD ""))
    (execute ix (some hook) 1 (asking "gold") ()).1.toOption.map (fun o => (o.retried, o.recordIds)) =
      some (true, ["r"]) := by decide +kernel

end Retries
end Index
end Catalogue
