import Catalogue.Proofs.Cache.Torn
import Catalogue.Proofs.Model.Session

/-! Versions of plans. A plan's own JSON is refused if it is of another version than the one that
is understood here; within a line of the cache file it is not. Whatever bytes the file holds, and
whatever is asked, retried or opened again: an entry for a text is the first that the file held
for it at the start, or its plan was asked for since (`from_run`), and a plan that was asked for
is of the current version. So the plans that a compiler returns for a text are always of the
current version exactly if the first entry that the file held for it, if any, is
(`versions_iff`). -/
namespace Catalogue.Model

variable {σ : Type} {s : Session (σ × List Request)} {file : List UInt8} {k : Cache} {text : String}
  {entry : CacheEntry}

/-! ### Where entries come from -/

/-- Whether an entry for a text is the first that a file holds for it, or was made from a plan that was
asked for. -/
def EntryFrom (file : List UInt8) (text : String) (e : CacheEntry) : Prop :=
  Cache.first? file text = some e ∨ Fresh text e.plan

/-- A cache in which every entry comes from a file or was asked for: those that can be looked up, and those
that could be if its own file were opened again. -/
structure CacheFrom (file : List UInt8) (k : Cache) : Prop where
  entries : ∀ text e, k.get? text = some e → EntryFrom file text e
  reopened : ∀ text e, Cache.first? k.file text = some e → EntryFrom file text e

theorem from_openFile (h : ∀ text e, Cache.first? k.file text = some e → EntryFrom file text e) :
    CacheFrom file (Cache.openFile k.file) := by
  refine ⟨fun text e he => h text e ?_, h⟩
  rw [← Cache.get?_openFile]
  exact he

theorem from_opened (file : List UInt8) : CacheFrom file (Cache.openFile file) :=
  from_openFile (k := ⟨file, []⟩) fun _ _ he => .inl he

/-- A fresh plan that is added is the only new entry, in memory and, as far as it can be read again, in the
file. -/
theorem from_put {w : Cache.Writing} (hw : w.now.Valid) {p : Plan} (hp : Fresh text p) {model : String} {k' : Cache}
    (h : CacheFrom file k) (hput : k.put? w text p model = some k') : CacheFrom file k' := by
  unfold Cache.put? at hput
  split at hput
  · cases hput
  cases hput
  constructor
  · intro asked e he
    have hget : some e = if text = asked then some ((Cache.get? ⟨k.file, k.entries⟩ asked).getD ⟨text, p, model, w.now⟩)
        else Cache.get? ⟨k.file, k.entries⟩ asked := he.symm.trans (Cache.get?_remember_eq k.file _ asked)
    split at hget
    · rename_i htext
      subst htext
      cases hold : Cache.get? ⟨k.file, k.entries⟩ text with
      | some old =>
        rw [hold] at hget
        cases hget
        exact h.entries _ _ hold
      | none =>
        rw [hold] at hget
        cases hget
        exact .inr hp
    · exact h.entries asked e hget.symm
  · intro asked e he
    rcases Cache.first?_append_line (hp.entry text model hw) he with hfirst | ⟨rfl, htext⟩
    · exact h.reopened asked e hfirst
    · have hasked : text = asked := htext
      exact .inr (hasked ▸ hp)

theorem from_updated {τ : Type} {c : Compiler τ} {w : Cache.Writing} (hw : w.now.Valid) {t : τ}
    (h : CacheFrom file k) :
    CacheFrom file (c.updated w text k (c.requestPlan text (questionPrompt text) t).1) := by
  cases hplan : (c.requestPlan text (questionPrompt text) t).1 with
  | error e => exact h
  | ok p =>
    show CacheFrom file ((k.put? w text p c.provider.model).getD k)
    cases hput : k.put? w text p c.provider.model with
    | none => exact h
    | some k' => exact from_put hw (Compiler.fresh_requestPlan hplan) h hput

/-! ### Runs -/

/-- A session all of whose entries come from a file or were asked for. -/
def Session.From (file : List UInt8) (s : Session σ) : Prop := ∃ k, s.cache = some k ∧ CacheFrom file k

theorem from_step (h : s.From file) {e : Event σ} (he : e.Timely) : (e.step s).From file := by
  obtain ⟨k, hk, hfrom⟩ := h
  rcases cache_step hk e with hcache | ⟨c, w, text, limit, rfl, hcache⟩ | hcache
  · exact ⟨k, hcache, hfrom⟩
  · exact ⟨_, hcache, from_updated he hfrom⟩
  · exact ⟨_, hcache, from_openFile hfrom.reopened⟩

/-- Whatever is done with a file, no entry is there that neither it held nor a compiler asked for. -/
theorem from_run (h : s.From file) {es : List (Event σ)} (hes : ∀ e ∈ es, e.Timely) : (run s es).From file := by
  induction es generalizing s with
  | nil => exact h
  | cons e es ih =>
    obtain ⟨he, hrest⟩ := List.forall_mem_cons.mp hes
    exact ih (from_step h he) hrest

/-- A plan that is returned for a text is of the current version, or of that of the first entry for the
text. -/
theorem version_of_compile (h : s.From file) {c : Compiler σ} {w : Cache.Writing} {limit : Option Nat} {p : Plan}
    (hp : (c.recorded.compile w text limit s).1 = .ok p) : p.version = Plan.currentVersion ∨
      ∃ e, Cache.first? file text = some e ∧ p.version = e.plan.version := by
  cases hentry : s.cached? text with
  | some e =>
    rw [Compiler.compile_cached _ _ _ hentry] at hp
    cases hp
    obtain ⟨k, hk, hfrom⟩ := h
    rw [cached?_of_cache hk] at hentry
    rcases hfrom.entries text e hentry with hfirst | hfresh
    · exact .inr ⟨e, hfirst, rfl⟩
    · exact .inl hfresh.version
  | none =>
    rw [Compiler.compile_uncached _ _ _ hentry] at hp
    obtain ⟨fresh, hfresh, rfl⟩ := map_eq_ok.mp hp
    exact .inl (Compiler.fresh_requestPlan hfresh).version

/-- Whatever bytes a cache file holds: the plans that a compiler returns for a text, after whatever was done
with the file, are all of the current version exactly if the first entry that the file holds for the text is,
or it holds none. -/
theorem versions_iff (provider : σ) (file : List UInt8) (c : Compiler σ) (text : String) :
    (∀ es : List (Event σ), (∀ e ∈ es, e.Timely) → ∀ w limit p,
      (c.recorded.compile w text limit (run (opened provider file) es)).1 = .ok p →
        p.version = Plan.currentVersion) ↔
    ∀ e, Cache.first? file text = some e → e.plan.version = Plan.currentVersion := by
  constructor
  · intro hcurrent e he
    have hentry : (opened provider file).cached? text = some e := (Cache.get?_openFile file text).trans he
    have hplan : (c.recorded.compile atStart text none (opened provider file)).1 = .ok (Compiler.cachedPlan e none) :=
      congrArg Prod.fst (Compiler.compile_cached c.recorded atStart none hentry)
    show (Compiler.cachedPlan e none).version = Plan.currentVersion
    exact hcurrent [] (List.forall_mem_nil _) atStart none _ hplan
  · intro hfirst es hes w limit p hp
    have hfrom := from_run (s := opened provider file) ⟨_, rfl, from_opened file⟩ hes
    rcases version_of_compile hfrom hp with hversion | ⟨e, he, hversion⟩
    · exact hversion
    · exact hversion.trans (hfirst e he)

/-! ### A newer version -/

/-- An entry for a text, with a plan of a version that is not understood here. -/
def newerEntry : CacheEntry := ⟨"q", { Plan.ofText "q" with version := 7 }, "model", ⟨0, 0⟩⟩

theorem sound_newerEntry : newerEntry.Sound where
  version := (by decide : Number.nat32.holds 7)
  plan := ⟨List.forall_mem_nil _, List.forall_mem_nil _, nofun, List.Pairwise.nil, List.forall_mem_nil _⟩
  depth := Nat.lt_of_le_of_lt (Plan.depth_toJson (n := 2) (Nat.le_refl 2) (List.forall_mem_nil _)) (by decide)
  timestamp := (⟨by decide +kernel, by decide, by decide⟩ : Timestamp.Valid ⟨0, 0⟩)

/-- A plan of a newer version is refused as a text of its own. As an entry in the cache file it is returned,
and the model is not asked. -/
theorem newer_version_returned :
    Plan.parse newerEntry.plan.compact = .error (.content (.refused (Plan.versionMessage 7))) ∧
      ∃ p s, scripted.recorded.compile atStart "q" none (opened [] newerEntry.line) = (.ok p, s) ∧
        p.version = 7 ∧ s.requests = [] := by
  have hother : newerEntry.plan.version ≠ Plan.currentVersion := by decide
  have hline : CacheEntry.ofLine? (Text.Utf8.encode newerEntry.toJson.compact) = some newerEntry :=
    CacheEntry.ofLine?_line sound_newerEntry
  have hfirst : Cache.first? newerEntry.line "q" = some newerEntry := by
    rw [Cache.first?, Cache.held, Cache.lines_line, List.filterMap_cons_some hline]
    rfl
  have hentry : (opened ([] : List (Except CompileError String)) newerEntry.line).cached? "q" = some newerEntry := by
    rw [cached?_of_cache (k := Cache.openFile newerEntry.line) rfl, Cache.get?_openFile, hfirst]
  refine ⟨Plan.parse_compact_refused hother sound_newerEntry.version sound_newerEntry.plan
    (Nat.le_of_lt sound_newerEntry.depth), _, _, Compiler.compile_cached _ _ _ hentry, rfl, rfl⟩

end Catalogue.Model
