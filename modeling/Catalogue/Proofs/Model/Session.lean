import Catalogue.Proofs.Cache.File
import Catalogue.Proofs.Model.Requests

/-! Runs of compilers that share one cache file. Whatever is asked, retried or opened
again, with whatever answers, the entries that can be looked up are those that the file
would give if it were opened (`kept_run`), and an entry that is there stays
(`cached?_run`). So a text is asked for until it has a plan that could be written, and
never again: every later question gives that plan (`run_compilesOnce`). -/
namespace Catalogue.Model

variable {σ : Type}

/-! ### Runs -/

/-- One use of the cache file: a question to a compiler, a retry by one, or the file is opened again
and the provider is in a state of its own. -/
inductive Event (σ : Type) where
  | compile (c : Compiler σ) (w : Cache.Writing) (queryText : String) (limit : Option Nat)
  | retry (c : Compiler σ) (plan : Plan) (hints : List SubjectHint)
  | reopen (provider : σ)

namespace Event

/-- The clock shows a point in time that there is. -/
def Timely : Event σ → Prop
  | compile _ w _ _ => w.now.Valid
  | _ => True

/-- The session after an event, with all requests written down. -/
def step (s : Session (σ × List Request)) : Event σ → Session (σ × List Request)
  | compile c w queryText limit => (c.recorded.compile w queryText limit s).2
  | retry c plan hints => (c.recorded.retry plan hints s).2
  | reopen provider => ⟨(provider, s.requests), s.cache.map fun k => Cache.openFile k.file⟩

end Event

/-- A session on a file that was just opened. -/
def opened (provider : σ) (file : List UInt8) : Session (σ × List Request) :=
  ⟨(provider, []), some (Cache.openFile file)⟩

/-- The session after events. -/
def run (s : Session (σ × List Request)) (es : List (Event σ)) : Session (σ × List Request) :=
  es.foldl Event.step s

/-! ### What events keep -/

/-- All that an event can do to the cache: nothing, add the plan of a text if there is one and it can be,
or open the file again. -/
theorem cache_step {s : Session (σ × List Request)} {k : Cache} (hk : s.cache = some k) (e : Event σ) :
    (e.step s).cache = some k ∨
    (∃ c w queryText limit, e = .compile c w queryText limit ∧
      (e.step s).cache = some (c.recorded.updated w queryText k
        (c.recorded.requestPlan queryText (questionPrompt queryText) s.provider).1)) ∨
    (e.step s).cache = some (Cache.openFile k.file) := by
  cases e with
  | compile c w queryText limit =>
    cases hentry : s.cached? queryText with
    | some entry =>
      left
      show (c.recorded.compile w queryText limit s).2.cache = some k
      rw [Compiler.compile_cached _ _ _ hentry]
      exact hk
    | none =>
      refine .inr (.inl ⟨c, w, queryText, limit, rfl, ?_⟩)
      show (c.recorded.compile w queryText limit s).2.cache = _
      rw [Compiler.compile_uncached _ _ _ hentry, hk]
      rfl
  | retry c plan hints => exact .inl ((Compiler.cache_retry _ _ _ _).trans hk)
  | reopen provider => exact .inr (.inr (congrArg (Option.map _) hk))

/-- A session whose cache is that of its file. -/
def Session.Kept (s : Session (σ × List Request)) : Prop := ∃ k, s.cache = some k ∧ k.Kept

/-- A fresh plan makes a sound entry. -/
theorem Fresh.entry {queryText : String} {p : Plan} (h : Fresh queryText p) (text model : String)
    {now : Timestamp} (hnow : now.Valid) : CacheEntry.Sound ⟨text, p, model, now⟩ where
  version := (by rw [h.version]; decide : Number.nat32.holds p.version)
  plan := h.sound
  depth := Nat.lt_of_le_of_lt h.depth (by decide)
  timestamp := hnow

/-- What is added after a plan was asked for is a sound entry. -/
theorem kept_updated {τ : Type} {c : Compiler τ} {w : Cache.Writing} (hw : w.now.Valid)
    {queryText prompt : String} {s : τ} {k : Cache} (h : k.Kept) :
    (c.updated w queryText k (c.requestPlan queryText prompt s).1).Kept := by
  cases hplan : (c.requestPlan queryText prompt s).1 with
  | error e => exact h
  | ok p =>
    have hentry := (Compiler.fresh_requestPlan hplan).entry queryText c.provider.model hw
    show ((k.put? w queryText p c.provider.model).getD k).Kept
    cases hput : k.put? w queryText p c.provider.model with
    | none => exact h
    | some k' => exact Cache.kept_put h hentry hput

/-- Every event keeps the cache that of its file. -/
theorem kept_step {s : Session (σ × List Request)} (h : s.Kept) {e : Event σ} (he : e.Timely) :
    (e.step s).Kept := by
  obtain ⟨k, hk, hkept⟩ := h
  rcases cache_step hk e with hcache | ⟨c, w, queryText, limit, rfl, hcache⟩ | hcache
  · exact ⟨k, hcache, hkept⟩
  · exact ⟨_, hcache, kept_updated he hkept⟩
  · exact ⟨_, hcache, Cache.kept_openFile hkept.complete⟩

theorem kept_run {s : Session (σ × List Request)} (h : s.Kept) {es : List (Event σ)}
    (hes : ∀ e ∈ es, e.Timely) : (run s es).Kept := by
  induction es generalizing s with
  | nil => exact h
  | cons e es ih =>
    obtain ⟨he, hrest⟩ := List.forall_mem_cons.mp hes
    exact ih (kept_step h he) hrest

theorem kept_opened (provider : σ) {file : List UInt8} (h : Cache.Complete file) : (opened provider file).Kept :=
  ⟨_, rfl, Cache.kept_openFile h⟩

/-! ### Entries that are there -/

theorem cached?_of_cache {s : Session σ} {k : Cache} (h : s.cache = some k) (text : String) :
    s.cached? text = k.get? text := by
  unfold Session.cached?
  rw [h, Option.bind_some]

theorem get?_updated {c : Compiler σ} {w : Cache.Writing} {queryText text : String} {k : Cache} {e : CacheEntry}
    (h : k.get? text = some e) (result : Except CompileError Plan) :
    (c.updated w queryText k result).get? text = some e := by
  cases result with
  | error _ => exact h
  | ok p =>
    show ((k.put? w queryText p c.provider.model).getD k).get? text = some e
    cases hput : k.put? w queryText p c.provider.model with
    | none => exact h
    | some k' => exact Cache.get?_put h hput

/-- An entry that is there stays, whatever happens. -/
theorem cached?_step {s : Session (σ × List Request)} (hs : s.Kept) {text : String} {e : CacheEntry}
    (h : s.cached? text = some e) (event : Event σ) : (event.step s).cached? text = some e := by
  obtain ⟨k, hk, hkept⟩ := hs
  rw [cached?_of_cache hk] at h
  rcases cache_step hk event with hcache | ⟨c, w, queryText, limit, -, hcache⟩ | hcache
  · rw [cached?_of_cache hcache, h]
  · rw [cached?_of_cache hcache, get?_updated h]
  · rw [cached?_of_cache hcache, hkept.same, h]

theorem cached?_run {s : Session (σ × List Request)} (hs : s.Kept) {text : String} {e : CacheEntry}
    (h : s.cached? text = some e) {es : List (Event σ)} (hes : ∀ e ∈ es, e.Timely) :
    (run s es).cached? text = some e := by
  induction es generalizing s with
  | nil => exact h
  | cons event es ih =>
    obtain ⟨hevent, hrest⟩ := List.forall_mem_cons.mp hes
    exact ih (kept_step hs hevent) (cached?_step hs h event) hrest

/-! ### Every text once -/

/-- A plan that was found, given to another caller. -/
theorem cachedPlan_again (e : CacheEntry) (limit limit' : Option Nat) :
    ((Compiler.cachedPlan e limit).withLimit limit').withDebug Plan.Key.cacheHit (.bool true) =
      Compiler.cachedPlan e limit' := by
  simp only [Compiler.cachedPlan, Plan.withDebug, Plan.withLimit, Entries.insert_insert]

/-- After a plan that could be written there is an entry that gives the plan to every caller. -/
theorem cached?_compile {s : Session (σ × List Request)} (hs : s.Kept) {c : Compiler σ} {w : Cache.Writing}
    (hw : w.fails = false) {queryText : String} {limit : Option Nat} {p : Plan}
    (h : (c.recorded.compile w queryText limit s).1 = .ok p) :
    ∃ e, (c.recorded.compile w queryText limit s).2.cached? queryText = some e ∧ ∀ limit',
      Compiler.cachedPlan e limit' = (p.withLimit limit').withDebug Plan.Key.cacheHit (.bool true) := by
  cases hentry : s.cached? queryText with
  | some e =>
    rw [Compiler.compile_cached _ _ _ hentry] at h ⊢
    cases h
    exact ⟨e, hentry, fun limit' => (cachedPlan_again e limit limit').symm⟩
  | none =>
    obtain ⟨k, hk, -⟩ := hs
    have hnone : k.get? queryText = none := by rw [← cached?_of_cache hk, hentry]
    rw [Compiler.compile_uncached _ _ _ hentry] at h ⊢
    obtain ⟨fresh, hfresh, rfl⟩ := map_eq_ok.mp h
    refine ⟨⟨queryText, fresh, c.provider.model, w.now⟩, ?_, fun _ => rfl⟩
    show (s.cache.map _).bind _ = _
    rw [hk, hfresh, Option.map_some, Option.bind_some]
    show ((k.put? w queryText fresh c.provider.model).getD k).get? queryText = _
    unfold Cache.put?
    rw [hw, if_neg Bool.false_ne_true, Option.getD_some]
    exact Cache.get?_remember_new hnone

/-- What a question to a compiler gives in a session, and what it leaves. -/
structure CompilesOnce (s : Session (σ × List Request)) (c : Compiler σ) (w : Cache.Writing) (queryText : String)
    (limit : Option Nat) (out : Except CompileError Plan × Session (σ × List Request)) : Prop where
  /-- Writing down the requests changes nothing. -/
  plain : c.compile w queryText limit s.plain = (out.1, out.2.plain)
  /-- Nothing is asked for exactly if the text has an entry. -/
  free : out.2.requests = s.requests ↔ (s.cached? queryText).isSome
  /-- Otherwise one completion is asked for, and a second one if its answer is to be repaired. -/
  asked : s.cached? queryText = none → out.2.requests = s.requests ++
    Compiler.request (questionPrompt queryText) :: (c.repairRequest? (questionPrompt queryText)
      (c.ask (questionPrompt queryText) s.provider.1).1).toList
  /-- The limit is the caller's. -/
  limited : ∀ p, out.1 = .ok p → p.limit = Plan.positive limit
  /-- Once a plan was returned and could be written, every compiler returns it without asking, whatever is
  done in between. -/
  again : w.now.Valid → w.fails = false → ∀ p, out.1 = .ok p →
    ∀ later : List (Event σ), (∀ e ∈ later, e.Timely) →
      ∀ (c' : Compiler σ) (w' : Cache.Writing) (limit' : Option Nat),
        c'.recorded.compile w' queryText limit' (run out.2 later) =
          (.ok ((p.withLimit limit').withDebug Plan.Key.cacheHit (.bool true)), run out.2 later)
  /-- Without a plan the cache stays as it was. -/
  failed : ∀ e, out.1 = .error e → out.2.cache = s.cache
  /-- So it does if the file cannot be written. -/
  unwritten : w.fails = true → out.2.cache = s.cache

/-- What a compiler gives for a plan that found nothing, and what it leaves. -/
structure RetriesAside (s : Session (σ × List Request)) (plan : Plan)
    (out : Except CompileError Plan × Session (σ × List Request)) : Prop where
  /-- The limit is that of the plan. -/
  limited : ∀ p, out.1 = .ok p → p.limit = Plan.positive plan.limit
  /-- The cache stays as it was. -/
  cache : out.2.cache = s.cache

theorem limit_compile (c : Compiler σ) (w : Cache.Writing) (queryText : String) (limit : Option Nat)
    (s : Session σ) {p : Plan} (h : (c.compile w queryText limit s).1 = .ok p) : p.limit = Plan.positive limit := by
  cases hentry : s.cached? queryText with
  | some e =>
    rw [Compiler.compile_cached _ _ _ hentry] at h
    cases h
    rfl
  | none =>
    rw [Compiler.compile_uncached _ _ _ hentry] at h
    obtain ⟨fresh, -, rfl⟩ := map_eq_ok.mp h
    rfl

/-- Only a plan that could be written changes the cache. -/
theorem cache_compile {c : Compiler σ} {w : Cache.Writing} {queryText : String} {limit : Option Nat}
    {s : Session σ} (h : (∃ e, (c.compile w queryText limit s).1 = .error e) ∨ w.fails = true) :
    (c.compile w queryText limit s).2.cache = s.cache := by
  cases hentry : s.cached? queryText with
  | some e => rw [Compiler.compile_cached _ _ _ hentry]
  | none =>
    rw [Compiler.compile_uncached _ _ _ hentry] at h ⊢
    cases hplan : (c.requestPlan queryText (questionPrompt queryText) s.provider).1 with
    | error e => exact Option.map_id' ..
    | ok p =>
      have hfails : w.fails = true := by
        rcases h with ⟨e, he⟩ | h
        · rw [hplan] at he
          cases he
        · exact h
      simp only [Compiler.updated, Cache.put?, hfails, if_true, Option.getD_none, Option.map_id']

/-- Whatever was done with a cache file of complete lines, a text is compiled once: it is asked for until
there is a plan that can be written, and from then on the plan is found. -/
theorem run_compilesOnce {file : List UInt8} (hfile : Cache.Complete file) (provider : σ) {es : List (Event σ)}
    (hes : ∀ e ∈ es, e.Timely) (c : Compiler σ) :
    (∀ w queryText limit, CompilesOnce (run (opened provider file) es) c w queryText limit
      (c.recorded.compile w queryText limit (run (opened provider file) es))) ∧
    ∀ plan hints, RetriesAside (run (opened provider file) es) plan
      (c.recorded.retry plan hints (run (opened provider file) es)) := by
  have hs := kept_run (kept_opened provider hfile) hes
  generalize run (opened provider file) es = s at hs
  refine ⟨fun w queryText limit => ?_, fun plan hints =>
    ⟨fun p hp => Compiler.limit_retry hp, Compiler.cache_retry _ _ _ _⟩⟩
  have hrequests : (c.recorded.compile w queryText limit s).2.requests =
      s.requests ++ c.costs queryText s.plain := by
    rw [Compiler.compile_recorded]
    rfl
  refine ⟨?_, ?_, ?_, ?_, ?_, ?_, ?_⟩
  · rw [Compiler.compile_recorded]
    rfl
  · rw [hrequests, List.append_right_eq_self]
    unfold Compiler.costs Compiler.asked
    show (if (s.cached? queryText).isSome = true then _ else _) = _ ↔ _
    split
    · rename_i hsome
      exact ⟨fun _ => hsome, fun _ => rfl⟩
    · rename_i hsome
      exact ⟨fun h => absurd h (List.cons_ne_nil _ _), fun h => absurd h hsome⟩
  · intro hnone
    have hplain : s.plain.cached? queryText = none := hnone
    rw [hrequests, Compiler.costs, hplain, Option.isSome_none, if_neg Bool.false_ne_true]
    rfl
  · exact fun p hp => limit_compile _ _ _ _ _ hp
  · intro hnow hw p hp later hlater c' w' limit'
    obtain ⟨e, he, hagain⟩ := cached?_compile hs hw hp
    have hkept : (c.recorded.compile w queryText limit s).2.Kept :=
      kept_step (e := .compile c w queryText limit) hs hnow
    rw [Compiler.compile_cached _ _ _ (cached?_run hkept he hlater), hagain]
  · exact fun e he => cache_compile (.inl ⟨e, he⟩)
  · exact fun hw => cache_compile (.inr hw)

/-- A compiler that gets the answers of a script, one after the other. -/
def scripted : Compiler (List (Except CompileError String)) where
  provider :=
    { name := "scripted"
      model := "scripted-model"
      complete := fun _ script =>
        match script with
        | [] => (.error (.invalidResponse "no scripted answer left"), [])
        | answer :: rest => (answer, rest) }
  repair := true

/-- At the start of 1970, on a file that can be written. -/
def atStart : Cache.Writing := ⟨⟨0, 0⟩, false⟩

/-- A failure is not cached. The plan of the second answer is, and is found when the file is opened
again and the script is at its end. -/
theorem run_compilesOnce_scripted :
    let s := run (opened [.error (.invalidResponse "down"), .ok "\x7b\"filters\": []\x7d"] [])
      [.compile scripted atStart "q" none]
    let out := scripted.recorded.compile atStart "q" (some 3) s
    ∃ p, out.1 = .ok p ∧ p.limit = some 3 ∧
      (scripted.recorded.compile atStart "q" none (run out.2 [.reopen []])).1 =
        .ok ((p.withLimit none).withDebug Plan.Key.cacheHit (.bool true)) := by
  intro s out
  have hnow : atStart.now.Valid := ⟨by decide +kernel, by decide, by decide⟩
  have hevents : ∀ e ∈ [Event.compile scripted atStart "q" none], e.Timely := List.forall_mem_singleton.mpr hnow
  have hfile : Cache.Complete [] := nofun
  obtain ⟨hcompile, -⟩ := run_compilesOnce hfile _ hevents scripted
  have hout := hcompile atStart "q" (some 3)
  have hok : out.1.isOk = true := by decide +kernel
  cases hp : out.1 with
  | error e =>
    rw [hp] at hok
    cases hok
  | ok p =>
    have hreopen : ∀ e ∈ ([.reopen []] : List (Event (List (Except CompileError String)))), e.Timely :=
      List.forall_mem_singleton.mpr trivial
    refine ⟨p, rfl, hout.limited p hp, ?_⟩
    rw [hout.again hnow rfl p hp _ hreopen]

end Catalogue.Model
