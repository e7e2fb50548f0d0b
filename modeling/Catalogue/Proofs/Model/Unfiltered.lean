import Catalogue.Proofs.Cache.Replay
import Catalogue.Proofs.Model.Verdict

/-! Plans without filters, which every record satisfies. There is such a plan of an object exactly if it is silent
(`planOf_unfiltered_iff`): its list of filters is empty or is not there, and nothing else in it is against a plan.
An entry that is in the cache in the course of a run was in its file at the start, or its plan was asked for in
the run (`cached?_cases`). So whatever is asked, retried or opened again, a plan without filters goes back to a
silent object, and a silent object to such a plan (`run_unfiltered_iff`). An object need not be an answer to be
silent: so is one that has nothing to do with filters (`stray_object_compiled`). -/
namespace Catalogue.Model

open Json

/-! ### Silent objects -/

/-- Entries of an object that name no filter and give no reason against a plan. -/
structure Silent (es : Entries Json) : Prop where
  filters : Entries.get? "filters" es = none ∨ Entries.get? "filters" es = some (.arr [])
  explanation : ∀ v, Entries.get? "explanation" es = some v → v = .null ∨ ∃ s, v = .str s
  error : ∀ v, Entries.get? "error" es = some v → v = .null ∨ ∃ s, v = .str s ∧ Text.isBlank s = true

theorem Answer.exists_says {v : Option Json} :
    (∃ text, Says none v text) ↔ ∀ w, v = some w → w = .null ∨ ∃ s, w = .str s := by
  constructor
  · rintro ⟨text, h⟩ w rfl
    cases h with
    | null => exact .inl rfl
    | text s => exact .inr ⟨s, rfl⟩
  · intro h
    cases v with
    | none => exact ⟨none, .absent⟩
    | some w =>
      rcases h w rfl with rfl | ⟨s, rfl⟩
      · exact ⟨none, .null⟩
      · exact ⟨some s, .text s⟩

/-- An object is silent exactly if it is an answer that has no filters and does not decline. -/
theorem silent_iff {es : Entries Json} :
    Silent es ↔ ∃ a : Answer, a.Of (.obj es) ∧ a.filters = [] ∧ ∀ reason, ¬a.Declines reason := by
  constructor
  · rintro ⟨hfilters, hexplanation, herror⟩
    obtain ⟨explanation, hsays⟩ := Answer.exists_says.mpr hexplanation
    have htexts : ∀ v, Entries.get? "error" es = some v → v = .null ∨ ∃ s, v = .str s := fun v hv =>
      (herror v hv).imp_right fun ⟨s, hs, _⟩ => ⟨s, hs⟩
    obtain ⟨error, hsays'⟩ := Answer.exists_says.mpr htexts
    have hlists : Answer.Lists [] (Entries.get? "filters" es) [] := by
      rcases hfilters with hnone | hempty
      · rw [hnone]
        exact .absent
      · rw [hempty]
        exact .items []
    refine ⟨⟨[], explanation, error⟩, ⟨es, rfl, hlists, hsays, hsays'⟩, rfl, ?_⟩
    rintro reason ⟨hreason, hblank⟩
    obtain rfl : error = some reason := hreason
    generalize hv : Entries.get? "error" es = v at hsays'
    cases hsays' with
    | text s =>
      rcases herror _ hv with hnull | ⟨s', hs', hblank'⟩
      · cases hnull
      · cases hs'
        rw [hblank'] at hblank
        cases hblank
  · rintro ⟨⟨filters, explanation, error⟩, ⟨_, ⟨⟩, hfilters, hexplanation, herror⟩, rfl, hspared⟩
    refine ⟨?_, Answer.exists_says.mp ⟨_, hexplanation⟩, fun v hv => ?_⟩
    · generalize Entries.get? "filters" es = v at hfilters
      cases hfilters with
      | absent => exact .inl rfl
      | items => exact .inr rfl
    · rw [hv] at herror
      cases herror with
      | null => exact .inl rfl
      | text s =>
        refine .inr ⟨s, rfl, ?_⟩
        cases hblank : Text.isBlank s with
        | true => rfl
        | false => exact absurd ⟨rfl, hblank⟩ (hspared s)

/-- An object is at most one answer. -/
theorem Answer.Of.unique {a b : Answer} {es : Entries Json} (h : (Json.obj es).Ordered) (ha : a.Of (.obj es))
    (hb : b.Of (.obj es)) : a = b := by
  obtain ⟨_, ⟨⟩, ha⟩ := ha
  obtain ⟨_, ⟨⟩, hb⟩ := hb
  exact Except.ok.inj (((decode_eq_ok h).mpr ha).symm.trans ((decode_eq_ok h).mpr hb))

/-- There is a plan without filters of an object exactly if the object is silent. -/
theorem planOf_unfiltered_iff (model queryText : String) {es : Entries Json} (h : (Json.obj es).Ordered) :
    (∃ p, planOf model queryText (.obj es) = .ok p ∧ p.filters = []) ↔ Silent es := by
  have hverdict := verdict_planOf model queryText h rfl
  rw [silent_iff]
  constructor
  · rintro ⟨p, hp, hnone⟩
    obtain ⟨a, ha, hspared, hread, -⟩ := hverdict.whole p hp
    rw [hnone] at hread
    exact ⟨a, ha, List.forall₂_nil_right_iff.mp hread, hspared⟩
  · rintro ⟨a, ha, hnone, hspared⟩
    obtain ⟨p, hp⟩ := hverdict.taken a [] ha hspared (hnone ▸ .nil)
    obtain ⟨b, hb, -, hread, -⟩ := hverdict.whole p hp
    obtain rfl := ha.unique h hb
    rw [hnone] at hread
    exact ⟨p, hp, List.forall₂_nil_left_iff.mp hread⟩

namespace Compiler

variable {σ : Type} {c : Compiler σ} {prompt : String} {s : σ}

/-- A silent object is used. -/
def UsesSilent (c : Compiler σ) (prompt : String) (s : σ) : Prop :=
  ∃ es, c.Uses prompt s (.obj es) ∧ Silent es

/-- A plan without filters comes of a request exactly if a silent object is used. -/
theorem requestPlan_unfiltered_iff (text : String) :
    (∃ p, (c.requestPlan text prompt s).1 = .ok p ∧ p.filters = []) ↔ c.UsesSilent prompt s := by
  rw [requestPlan_fst]
  constructor
  · rintro ⟨p, hp, hnone⟩
    obtain ⟨object, hobject, hplan⟩ := bind_eq_ok.mp hp
    have huses := askObject_eq_ok.mp hobject
    obtain ⟨hordered, hobj⟩ := huses.object
    obtain ⟨es, rfl⟩ := isObject_iff.mp hobj
    exact ⟨es, huses, (planOf_unfiltered_iff _ text hordered).mp ⟨p, hplan, hnone⟩⟩
  · rintro ⟨es, huses, hsilent⟩
    obtain ⟨p, hp, hnone⟩ := (planOf_unfiltered_iff c.provider.model text huses.object.1).mpr hsilent
    exact ⟨p, bind_eq_ok.mpr ⟨_, askObject_eq_ok.mpr huses, hp⟩, hnone⟩

end Compiler

/-! ### Where plans in the cache come from -/

variable {σ : Type} {text : String} {e : CacheEntry}

/-- In the course of events, a text without an entry was given to a compiler, and this plan came of it. -/
def AskedIn (start : Session (σ × List Request)) (es : List (Event σ)) (text : String) (p : Plan) : Prop :=
  ∃ before c w limit after, es = before ++ .compile c w text limit :: after ∧
    (run start before).cached? text = none ∧
    (c.requestPlan text (questionPrompt text) (run start before).provider.1).1 = .ok p

theorem AskedIn.append {start : Session (σ × List Request)} {es : List (Event σ)} {p : Plan}
    (h : AskedIn start es text p) (event : Event σ) : AskedIn start (es ++ [event]) text p := by
  obtain ⟨before, c, w, limit, after, rfl, hnone, hplan⟩ := h
  exact ⟨before, c, w, limit, after ++ [event], by simp, hnone, hplan⟩

/-- An entry that is new after a plan was asked for has the text that it was asked for, and that plan. -/
theorem get?_updated_cases {c : Compiler σ} {w : Cache.Writing} {queryText : String} {k : Cache}
    {result : Except CompileError Plan} (h : (c.updated w queryText k result).get? text = some e) :
    k.get? text = some e ∨ text = queryText ∧ k.get? text = none ∧ result = .ok e.plan := by
  cases result with
  | error _ => exact .inl h
  | ok p =>
    replace h : ((k.put? w queryText p c.provider.model).getD k).get? text = some e := h
    unfold Cache.put? at h
    split at h
    · exact .inl h
    · have hget := (Cache.get?_remember_eq k.file _ text).symm.trans h
      split at hget
      · rename_i heq
        obtain rfl : queryText = text := heq
        cases hold : Cache.get? ⟨k.file, k.entries⟩ queryText with
        | some old =>
          rw [hold] at hget
          cases hget
          exact .inl rfl
        | none =>
          rw [hold] at hget
          cases hget
          exact .inr ⟨rfl, rfl, rfl⟩
      · exact .inl hget

/-- An entry that is there after events was there before them, or its plan was asked for. -/
theorem cached?_cases {start : Session (σ × List Request)} (hstart : start.Kept) {es : List (Event σ)}
    (hes : ∀ e ∈ es, e.Timely) (h : (run start es).cached? text = some e) :
    start.cached? text = some e ∨ AskedIn start es text e.plan := by
  induction es using List.reverseRecOn with
  | nil => exact .inl h
  | append_singleton es event ih =>
    obtain ⟨hbefore, -⟩ := List.forall_mem_append.mp hes
    have hstep : run start (es ++ [event]) = event.step (run start es) := by
      rw [run, List.foldl_append]
      rfl
    have hstays (hold : (run start es).cached? text = some e) :
        start.cached? text = some e ∨ AskedIn start (es ++ [event]) text e.plan :=
      (ih hbefore hold).imp_right fun hasked => hasked.append event
    obtain ⟨k, hk, hkept⟩ := kept_run hstart hbefore
    rw [hstep] at h
    rcases cache_step hk event with hcache | ⟨c, w, queryText, limit, rfl, hcache⟩ | hcache
    · rw [cached?_of_cache hcache] at h
      exact hstays (by rw [cached?_of_cache hk, h])
    · rw [cached?_of_cache hcache] at h
      rcases get?_updated_cases h with hold | ⟨rfl, hnone, hplan⟩
      · exact hstays (by rw [cached?_of_cache hk, hold])
      · refine .inr ⟨es, c, w, limit, [], rfl, by rw [cached?_of_cache hk, hnone], ?_⟩
        have hrecorded := Compiler.requestPlan_recorded c text (questionPrompt text) (run start es).provider.1
          (run start es).provider.2
        rw [← hplan]
        exact (congrArg Prod.fst hrecorded).symm
    · rw [cached?_of_cache hcache, hkept.same] at h
      exact hstays (by rw [cached?_of_cache hk, h])

/-! ### Plans without filters -/

/-- A plan is returned for a text without an entry exactly if one came of the request. -/
theorem compile_unfiltered_iff {c : Compiler σ} {w : Cache.Writing} {limit : Option Nat}
    {s : Session (σ × List Request)} (hnone : s.cached? text = none) :
    (∃ p, (c.recorded.compile w text limit s).1 = .ok p ∧ p.filters = []) ↔
      c.UsesSilent (questionPrompt text) s.provider.1 := by
  have hplain : s.plain.cached? text = none := hnone
  rw [← Compiler.requestPlan_unfiltered_iff text, Compiler.compile_recorded, Compiler.compile_uncached _ _ _ hplain]
  constructor
  · rintro ⟨p, hp, hempty⟩
    obtain ⟨q, hq, rfl⟩ := map_eq_ok.mp hp
    exact ⟨q, hq, hempty⟩
  · rintro ⟨q, hq, hempty⟩
    exact ⟨q.withLimit limit, map_eq_ok.mpr ⟨q, hq, rfl⟩, hempty⟩

/-- What becomes of a text in a session that events led to, as far as plans without filters go. -/
structure AnswersUnfiltered (start : Session (σ × List Request)) (es : List (Event σ)) (c : Compiler σ)
    (text : String) (result : Except CompileError Plan) : Prop where
  /-- For a text without an entry there is such a plan exactly if a silent object is used. -/
  fresh : (run start es).cached? text = none → ((∃ p, result = .ok p ∧ p.filters = []) ↔
    c.UsesSilent (questionPrompt text) (run start es).provider.1)
  /-- An object under whose keys something else stands than in an answer is refused. -/
  misshapen : (run start es).cached? text = none → ∀ object,
    c.Uses (questionPrompt text) (run start es).provider.1 object → (∀ a : Answer, ¬a.Of object) →
    ∃ e : DecodeError, result = .error (.invalidResponse ("unexpected response shape: " ++ e.message))
  /-- For any other text the plan is that of the entry, -/
  cached : ∀ e, (run start es).cached? text = some e → ∃ p, result = .ok p ∧ p.filters = e.plan.filters
  /-- and if that is such a plan and is not from the start, a silent object was used for it. -/
  origin : ∀ e, (run start es).cached? text = some e → e.plan.filters = [] → start.cached? text = some e ∨
    ∃ before c' w limit after, es = before ++ .compile c' w text limit :: after ∧
      (run start before).cached? text = none ∧
      c'.UsesSilent (questionPrompt text) (run start before).provider.1

/-- Whatever was done with a cache file of complete lines: a plan without filters is returned for a text exactly if
a silent object is used, now or when the plan was cached, or the file had such a plan for the text at the start. -/
theorem run_unfiltered_iff {file : List UInt8} (hfile : Cache.Complete file) (provider : σ) {es : List (Event σ)}
    (hes : ∀ e ∈ es, e.Timely) (c : Compiler σ) (w : Cache.Writing) (text : String) (limit : Option Nat) :
    AnswersUnfiltered (opened provider file) es c text
      (c.recorded.compile w text limit (run (opened provider file) es)).1 := by
  refine ⟨compile_unfiltered_iff, fun hnone object huses hnot => ?_, fun e he => ?_, fun e he hempty => ?_⟩
  · obtain ⟨requests, -, htakes⟩ := Compiler.requestPlan_takesWhole c text (questionPrompt text)
      (run (opened provider file) es).provider.1 []
    obtain ⟨error, herror⟩ := (htakes.used object huses).misshapen hnot
    have hplain : (run (opened provider file) es).plain.cached? text = none := hnone
    refine ⟨error, ?_⟩
    rw [Compiler.compile_recorded, Compiler.compile_uncached _ _ _ hplain]
    exact congrArg (Except.map (·.withLimit limit)) herror
  · rw [Compiler.compile_cached _ _ _ he]
    exact ⟨_, rfl, rfl⟩
  · rcases cached?_cases (kept_opened provider hfile) hes he with hstart | hasked
    · exact .inl hstart
    · obtain ⟨before, c', w', limit', after, hsplit, hnone, hplan⟩ := hasked
      exact .inr ⟨before, c', w', limit', after, hsplit, hnone,
        (Compiler.requestPlan_unfiltered_iff text).mp ⟨e.plan, hplan, hempty⟩⟩

/-- An answer that asks for no filters. -/
def emptyAnswer : String := "\x7b\"filters\": []\x7d"

/-- After an answer that asks for no filters, the plan that is found in the cache has none, and the object that was
used for it is silent. -/
theorem run_unfiltered_iff_empty :
    let s := run (opened [.ok emptyAnswer] []) [.compile scripted atStart "q" none]
    (∃ p, (scripted.recorded.compile atStart "q" none s).1 = .ok p ∧ p.filters = []) ∧
      scripted.UsesSilent (questionPrompt "q") [.ok emptyAnswer] := by
  intro s
  have hnow : atStart.now.Valid := ⟨by decide +kernel, by decide, by decide⟩
  have hevents : ∀ e ∈ [Event.compile scripted atStart "q" none], e.Timely := List.forall_mem_singleton.mpr hnow
  have hfile : Cache.Complete [] := nofun
  have hresult := run_unfiltered_iff hfile [.ok emptyAnswer] hevents scripted atStart "q" none
  have hentry : ((s.cached? "q").map fun e => e.plan.filters) = some [] := by decide +kernel
  obtain ⟨e, he, hempty⟩ := Option.map_eq_some_iff.mp hentry
  obtain ⟨p, hp, hfilters⟩ := hresult.cached e he
  refine ⟨⟨p, hp, hfilters.trans hempty⟩, ?_⟩
  rcases hresult.origin e he hempty with hstart | ⟨before, c, w, limit, after, hsplit, -, hsilent⟩
  · cases hstart
  · cases before with
    | nil =>
      cases hsplit
      exact hsilent
    | cons _ before => cases before <;> cases hsplit

/-- An answer whose object has no list of filters, from which a plan that every record satisfies is made and cached
all the same. -/
structure MadeUp (answer : String) : Prop where
  used : ∃ object, scripted.Uses (questionPrompt "q") [.ok answer] object ∧ object.get? "filters" = none
  plan : ∃ p, (scripted.recorded.compile atStart "q" none (opened [.ok answer] [])).1 = .ok p ∧ p.filters = []
  cached : ((scripted.recorded.compile atStart "q" none (opened [.ok answer] [])).2.cached? "q").map
    (·.plan.filters) = some []

theorem madeUp_of_evaluated {answer : String}
    (h : (extractObject answer).toOption.map (fun o => (o.get? "filters").isNone) = some true ∧
      (scripted.recorded.compile atStart "q" none (opened [.ok answer] [])).1.toOption.map (·.filters) = some [] ∧
      ((scripted.recorded.compile atStart "q" none (opened [.ok answer] [])).2.cached? "q").map (·.plan.filters) =
        some []) : MadeUp answer := by
  obtain ⟨hobject, hplan, hcached⟩ := h
  refine ⟨?_, ?_, hcached⟩
  · cases hextract : extractObject answer with
    | error problem =>
      rw [hextract] at hobject
      cases hobject
    | ok object =>
      rw [hextract] at hobject
      have hfirst : (scripted.ask (questionPrompt "q") [.ok answer]).1 = .ok answer := rfl
      exact ⟨object, .first hfirst hextract, Option.isNone_iff_eq_none.mp (Option.some.inj hobject)⟩
  · cases hout : (scripted.recorded.compile atStart "q" none (opened [.ok answer] [])).1 with
    | error e =>
      rw [hout] at hplan
      cases hplan
    | ok p =>
      rw [hout] at hplan
      exact ⟨p, rfl, Option.some.inj hplan⟩

/-- An empty object in prose makes such a plan, and so does a plan that stands under a key of its own. -/
theorem stray_object_compiled :
    MadeUp "An empty plan, \x7b\x7d, would find every book." ∧
      MadeUp ("\x7b\"plan\": \x7b\"filters\": " ++
        "[\x7b\"field\": \"place\", \"op\": \"equals\", \"value\": \"venice\"\x7d]\x7d\x7d") :=
  ⟨madeUp_of_evaluated (by decide +kernel), madeUp_of_evaluated (by decide +kernel)⟩

end Catalogue.Model
