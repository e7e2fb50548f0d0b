import Catalogue.Model.Compiler
import Catalogue.Proofs.Model.Answer

/-! What a compiler asks for. A provider can be made to write down its requests, which
changes nothing else that it does (`askObject_recorded`). A compiler asks for one
completion, and for a second if it repairs an answer that holds no object (`asked`). A
text that is cached costs none (`compile_cached`); any other is asked for, and the plan is
cached if there is one (`compile_uncached`). -/
namespace Catalogue.Model

variable {σ : Type}

/-! ### Recording -/

/-- A provider that also writes down what it is asked for. -/
def Provider.recorded (p : Provider σ) : Provider (σ × List Request) where
  name := p.name
  model := p.model
  complete r := fun (s, log) => ((p.complete r s).1, (p.complete r s).2, log ++ [r])

/-- A compiler that asks such a provider. -/
def Compiler.recorded (c : Compiler σ) : Compiler (σ × List Request) := ⟨c.provider.recorded, c.repair⟩

/-- What was asked for, oldest first. -/
def Session.requests (s : Session (σ × List Request)) : List Request := s.provider.2

/-- The session without what was written down. -/
def Session.plain (s : Session (σ × List Request)) : Session σ := ⟨s.provider.1, s.cache⟩

/-- The cached entry of a text. -/
def Session.cached? (s : Session σ) (queryText : String) : Option CacheEntry := s.cache.bind (·.get? queryText)

namespace Compiler

/-! ### Asking -/

/-- The request that a prompt makes. -/
def request (prompt : String) : Request := ⟨instructions, prompt, some Schema.answer⟩

/-- The request for a repair of an answer, if one is asked for. -/
def repairRequest? (c : Compiler σ) (prompt : String) : Except CompileError String → Option Request
  | .error _ => none
  | .ok answer =>
    match extractObject answer with
    | .ok _ => none
    | .error problem =>
      if c.repair then some (request (repairPrompt prompt answer problem.message)) else none

/-- All that is asked for with a prompt: the answer to it, and a repair of that answer if need be. -/
def asked (c : Compiler σ) (prompt : String) (s : σ) : List Request :=
  request prompt :: (c.repairRequest? prompt (c.ask prompt s).1).toList

/-- There are at most two requests for a prompt. -/
theorem length_asked_le (c : Compiler σ) (prompt : String) (s : σ) : (c.asked prompt s).length ≤ 2 := by
  unfold asked
  cases c.repairRequest? prompt (c.ask prompt s).1 <;> simp

theorem bind_apply {τ α β : Type} (x : StateM τ α) (f : α → StateM τ β) (s : τ) :
    (x >>= f) s = f (x s).1 (x s).2 := rfl

theorem pure_apply {τ α : Type} (a : α) (s : τ) : (pure a : StateM τ α) s = (a, s) := rfl

theorem get_apply {τ : Type} (s : τ) : (get : StateM τ τ) s = (s, s) := rfl

theorem modify_apply {τ : Type} (f : τ → τ) (s : τ) : (modify f : StateM τ PUnit) s = ((), f s) := rfl

theorem onProvider_apply {α : Type} (x : StateM σ α) (s : Session σ) :
    onProvider x s = ((x s.provider).1, ⟨(x s.provider).2, s.cache⟩) := rfl

theorem ask_recorded (c : Compiler σ) (prompt : String) (s : σ) (log : List Request) :
    c.recorded.ask prompt (s, log) = ((c.ask prompt s).1, (c.ask prompt s).2, log ++ [request prompt]) := rfl

/-- Writing down requests changes no answer, and writes down what is asked for. -/
theorem askObject_recorded (c : Compiler σ) (prompt : String) (s : σ) (log : List Request) :
    c.recorded.askObject prompt (s, log) =
      ((c.askObject prompt s).1, (c.askObject prompt s).2, log ++ c.asked prompt s) := by
  unfold askObject asked
  rw [bind_apply, bind_apply, ask_recorded]
  cases hanswer : (c.ask prompt s).1 with
  | error e => rfl
  | ok answer =>
    cases hobject : extractObject answer with
    | ok object =>
      simp only [repairRequest?, hobject]
      rfl
    | error problem =>
      simp only [repairRequest?, hobject]
      show (if c.repair then _ else _ : StateM _ _) _ = _
      by_cases hrepair : c.repair = true
      · rw [if_pos hrepair, if_pos hrepair, if_pos hrepair, bind_apply, bind_apply, ask_recorded]
        simp only [Option.toList_some, List.append_assoc, List.cons_append, List.nil_append]
        generalize c.ask (repairPrompt prompt answer problem.message) (c.ask prompt s).2 = repaired
        obtain ⟨repaired, s'⟩ := repaired
        cases repaired <;> simp only [pure_apply]
      · rw [if_neg hrepair, if_neg hrepair, if_neg hrepair]
        rfl

/-- Writing down requests changes no plan, and writes down what is asked for. -/
theorem requestPlan_recorded (c : Compiler σ) (queryText prompt : String) (s : σ) (log : List Request) :
    c.recorded.requestPlan queryText prompt (s, log) =
      ((c.requestPlan queryText prompt s).1, (c.requestPlan queryText prompt s).2, log ++ c.asked prompt s) := by
  unfold requestPlan
  rw [bind_apply, bind_apply, askObject_recorded]
  rfl

theorem requestPlan_fst (c : Compiler σ) (queryText prompt : String) (s : σ) :
    (c.requestPlan queryText prompt s).1 =
      (c.askObject prompt s).1 >>= planOf c.provider.model queryText := by
  unfold requestPlan
  rw [bind_apply]
  rfl

/-- A plan that was asked for is a fresh one for the question. -/
theorem fresh_requestPlan {c : Compiler σ} {queryText prompt : String} {s : σ} {p : Plan}
    (h : (c.requestPlan queryText prompt s).1 = .ok p) : Fresh queryText p := by
  rw [requestPlan_fst] at h
  obtain ⟨object, -, hplan⟩ := bind_eq_ok.mp h
  exact fresh_planOf hplan

/-! ### Compiling -/

/-- A cache after a plan for a text was asked for: the plan is added, if there is one and it can be. -/
def updated (c : Compiler σ) (w : Cache.Writing) (queryText : String) (k : Cache) :
    Except CompileError Plan → Cache
  | .ok p => (k.put? w queryText p c.provider.model).getD k
  | .error _ => k

/-- A cached plan is given to the caller, and nothing else happens. -/
theorem compile_cached (c : Compiler σ) (w : Cache.Writing) {queryText : String} (limit : Option Nat)
    {s : Session σ} {e : CacheEntry} (h : s.cached? queryText = some e) :
    c.compile w queryText limit s = (.ok (cachedPlan e limit), s) := by
  unfold Session.cached? at h
  unfold compile
  rw [bind_apply, get_apply]
  simp only [h, pure_apply]

/-- A plan for any other text is asked for. -/
theorem compile_uncached (c : Compiler σ) (w : Cache.Writing) {queryText : String} (limit : Option Nat)
    {s : Session σ} (h : s.cached? queryText = none) :
    c.compile w queryText limit s =
      ((c.requestPlan queryText (questionPrompt queryText) s.provider).1.map (·.withLimit limit),
        ⟨(c.requestPlan queryText (questionPrompt queryText) s.provider).2, s.cache.map fun k =>
          c.updated w queryText k (c.requestPlan queryText (questionPrompt queryText) s.provider).1⟩) := by
  unfold Session.cached? at h
  unfold compile
  rw [bind_apply, get_apply]
  simp only [h]
  rw [bind_apply, onProvider_apply]
  cases hplan : (c.requestPlan queryText (questionPrompt queryText) s.provider).1 with
  | error e =>
    simp only [updated, pure_apply, Option.map_id']
    rfl
  | ok p =>
    simp only
    rw [bind_apply, modify_apply, pure_apply]
    rfl

/-- What compiling a text asks for: nothing if the text is cached. -/
def costs (c : Compiler σ) (queryText : String) (s : Session σ) : List Request :=
  if (s.cached? queryText).isSome then [] else c.asked (questionPrompt queryText) s.provider

/-- Writing down requests changes nothing that compiling does, and writes down what it costs. -/
theorem compile_recorded (c : Compiler σ) (w : Cache.Writing) (queryText : String) (limit : Option Nat)
    (s : Session (σ × List Request)) :
    c.recorded.compile w queryText limit s =
      ((c.compile w queryText limit s.plain).1, ⟨((c.compile w queryText limit s.plain).2.provider,
        s.requests ++ c.costs queryText s.plain), (c.compile w queryText limit s.plain).2.cache⟩) := by
  have hentry : s.plain.cached? queryText = s.cached? queryText := rfl
  unfold costs
  cases h : s.cached? queryText with
  | some e =>
    rw [compile_cached _ _ _ h, compile_cached _ _ _ (hentry.trans h), hentry, h, Option.isSome_some, if_pos rfl,
      List.append_nil]
    rfl
  | none =>
    have hplan := requestPlan_recorded c queryText (questionPrompt queryText) s.plain.provider s.requests
    rw [compile_uncached _ _ _ h, compile_uncached _ _ _ (hentry.trans h), hentry, h, Option.isSome_none,
      if_neg Bool.false_ne_true]
    show (((c.recorded.requestPlan queryText (questionPrompt queryText) (s.plain.provider, s.requests)).1.map _,
      ⟨(c.recorded.requestPlan queryText (questionPrompt queryText) (s.plain.provider, s.requests)).2,
        s.cache.map fun k => c.updated w queryText k
          (c.recorded.requestPlan queryText (questionPrompt queryText) (s.plain.provider, s.requests)).1⟩) :
        Except CompileError Plan × Session (σ × List Request)) = _
    rw [hplan]
    rfl

/-! ### Retrying -/

/-- The plan of an answer to a retry: it has the limit of the plan that found nothing, and says which
plan that was. -/
def again (plan : Plan) (hints : List SubjectHint) (p : Plan) : Plan :=
  (((p.withLimit plan.limit).withDebug Plan.Key.retryAttempt (.bool true)).withDebug
    Plan.Key.retryHintCount (.nat hints.length)).withDebug Plan.Key.retryOf (.str plan.hash)

theorem retry_eq (c : Compiler σ) (plan : Plan) (hints : List SubjectHint) (s : Session σ) :
    c.retry plan hints s =
      ((c.requestPlan plan.queryText (subjectPrompt plan hints) s.provider).1.map (again plan hints),
        ⟨(c.requestPlan plan.queryText (subjectPrompt plan hints) s.provider).2, s.cache⟩) := by
  unfold retry
  rw [bind_apply, onProvider_apply, pure_apply]
  rfl

/-- Writing down requests changes nothing that a retry does, and writes down what it costs. -/
theorem retry_recorded (c : Compiler σ) (plan : Plan) (hints : List SubjectHint) (s : Session (σ × List Request)) :
    c.recorded.retry plan hints s =
      ((c.retry plan hints s.plain).1, ⟨((c.retry plan hints s.plain).2.provider,
        s.requests ++ c.asked (subjectPrompt plan hints) s.plain.provider), s.cache⟩) := by
  have hplan := requestPlan_recorded c plan.queryText (subjectPrompt plan hints) s.plain.provider s.requests
  rw [retry_eq, retry_eq]
  show ((c.recorded.requestPlan plan.queryText (subjectPrompt plan hints) (s.plain.provider, s.requests)).1.map _,
    (⟨(c.recorded.requestPlan plan.queryText (subjectPrompt plan hints) (s.plain.provider, s.requests)).2,
      s.cache⟩ : Session (σ × List Request))) = _
  rw [hplan]

/-- A retry leaves the cache alone. -/
theorem cache_retry (c : Compiler σ) (plan : Plan) (hints : List SubjectHint) (s : Session σ) :
    (c.retry plan hints s).2.cache = s.cache := by
  rw [retry_eq]

/-- The retry's plan is that of an answer, for the question and with the limit of the plan that it is a
retry of. -/
theorem retry_eq_ok {c : Compiler σ} {plan p : Plan} {hints : List SubjectHint} {s : Session σ}
    (h : (c.retry plan hints s).1 = .ok p) : ∃ q, p = again plan hints q ∧
      (c.requestPlan plan.queryText (subjectPrompt plan hints) s.provider).1 = .ok q := by
  rw [retry_eq] at h
  obtain ⟨q, hq, rfl⟩ := map_eq_ok.mp h
  exact ⟨q, rfl, hq⟩

/-- The retry's plan has the limit of the plan that it is a retry of. -/
theorem limit_retry {c : Compiler σ} {plan p : Plan} {hints : List SubjectHint} {s : Session σ}
    (h : (c.retry plan hints s).1 = .ok p) : p.limit = Plan.positive plan.limit := by
  obtain ⟨q, rfl, -⟩ := retry_eq_ok h
  rfl

end Compiler
end Catalogue.Model
