import Catalogue.Proofs.Json.Canonical
import Catalogue.Proofs.Model.Extraction
import Catalogue.Proofs.Model.Session

/-! An answer is taken whole or not at all. An object says what an answer is exactly if it is read as one
(`Answer.decode_eq_ok`), and its filters are had if each of its values is a filter
(`Answer.filtersFrom_eq_ok`), so of an object there is a plan of all that it says, or none
(`verdict_planOf`). The object is that of the first answer, or that of its repair if it holds none, and there
is no other request (`requestPlan_takesWhole`). -/
namespace Catalogue

namespace Json

/-! ### Values in memory -/

theorem readAnyItems_memory {items : List Json} (h : ∀ v ∈ items, readAny .memory (toDocument v) = .ok v) :
    readAnyItems .memory (toDocuments items) = .ok items := by
  induction items with
  | nil => rfl
  | cons v rest ih =>
    obtain ⟨hfirst, hrest⟩ := List.forall_mem_cons.mp h
    rw [toDocuments, readAnyItems]
    exact bind_eq_ok.mpr ⟨v, hfirst, bind_eq_ok.mpr ⟨rest, ih hrest, rfl⟩⟩

theorem readAnyEntries_memory {entries : Entries Json}
    (h : ∀ e ∈ entries, readAny .memory (toDocument e.2) = .ok e.2) :
    readAnyEntries .memory (toEntries entries) = .ok entries := by
  induction entries with
  | nil => rfl
  | cons e rest ih =>
    obtain ⟨k, v⟩ := e
    obtain ⟨hfirst, hrest⟩ := List.forall_mem_cons.mp h
    rw [toEntries, readAnyEntries]
    exact bind_eq_ok.mpr ⟨k, rfl, bind_eq_ok.mpr ⟨v, hfirst, bind_eq_ok.mpr ⟨rest, ih hrest, rfl⟩⟩⟩

/-- A value in memory reads as itself, however deep it is nested. -/
theorem readAny_memory {v : Json} (h : v.Ordered) : readAny .memory (toDocument v) = .ok v := by
  induction h with
  | null | bool | int | float | str => rfl
  | arr _ ih =>
    rw [toDocument, readAny]
    exact bind_eq_ok.mpr ⟨_, rfl, bind_eq_ok.mpr ⟨_, readAnyItems_memory ih, rfl⟩⟩
  | obj hkeys _ ih =>
    rw [toDocument, readAny]
    refine bind_eq_ok.mpr ⟨_, rfl, bind_eq_ok.mpr ⟨_, readAnyEntries_memory ih, bind_eq_ok.mpr ⟨(), rfl, ?_⟩⟩⟩
    rw [object, Entries.sorted_of_ascending hkeys]
    rfl

theorem fault?_toDocument (v : Json) : (toDocument v).fault? = none := by
  cases v <;> rfl

end Json

namespace Model.Answer

open Json

/-! ### Objects that are answers -/

/-- The items of a list that may be absent. -/
inductive Lists (absent : List Json) : Option Json → List Json → Prop where
  | absent : Lists absent none absent
  | items (vs : List Json) : Lists absent (some (.arr vs)) vs

/-- The text of a string that may be absent, or null for none. -/
inductive Says (absent : Option String) : Option Json → Option String → Prop where
  | absent : Says absent none absent
  | null : Says absent (some .null) none
  | text (s : String) : Says absent (some (.str s)) (some s)

/-- What is said by a value that is there does not depend on what it would be if there were none. -/
theorem Says.of_some {absent absent' : Option String} {v : Json} {text : Option String}
    (h : Says absent (some v) text) : Says absent' (some v) text := by
  cases h with
  | null => exact .null
  | text s => exact .text s

/-- What is left of a record after the fields of some entries have been read into it. -/
structure Gets (base : Answer) (es : Entries Json) (a : Answer) : Prop where
  filters : Lists base.filters (Entries.get? "filters" es) a.filters
  explanation : Says base.explanation (Entries.get? "explanation" es) a.explanation
  error : Says base.error (Entries.get? "error" es) a.error

theorem readList_memory {v : Json} (hv : v.Ordered) {vs : List Json} :
    readList readAny .memory (toDocument v) = .ok vs ↔ v = .arr vs := by
  cases hv with
  | @arr items h =>
    have hitems : (toDocuments items).mapM (readAny .memory) = .ok items := by
      induction items with
      | nil => rfl
      | cons v rest ih =>
        obtain ⟨hfirst, hrest⟩ := List.forall_mem_cons.mp h
        rw [toDocuments, List.mapM_cons]
        exact bind_eq_ok.mpr ⟨v, readAny_memory hfirst, bind_eq_ok.mpr ⟨rest, ih hrest, rfl⟩⟩
    have hread : readList readAny .memory (toDocument (.arr items)) = .ok items :=
      bind_eq_ok.mpr ⟨_, rfl, bind_eq_ok.mpr ⟨_, hitems, rfl⟩⟩
    rw [hread]
    simp
  | _ => exact ⟨nofun, nofun⟩

theorem readText_memory (v : Json) {text : Option String} :
    readOption readString .memory (toDocument v) = .ok text ↔ Says none (some v) text := by
  cases v with
  | null => exact ⟨fun h => by cases h; exact .null, fun h => by cases h; rfl⟩
  | str s => exact ⟨fun h => by cases h; exact .text s, fun h => by cases h; rfl⟩
  | _ => exact ⟨nofun, nofun⟩

/-- One field of an answer is read from a value exactly if the value is of the field's type. -/
theorem readField_eq_ok {a b : Answer} {k : String} (hk : k = "filters" ∨ k = "explanation" ∨ k = "error") {v : Json}
    (hv : v.Ordered) : readField a k .memory (toDocument v) = .ok b ↔ Gets a [(k, v)] b := by
  constructor
  · intro h
    rcases hk with rfl | rfl | rfl
    · obtain ⟨vs, hvs, h⟩ := bind_eq_ok.mp h
      cases h
      obtain rfl := (readList_memory hv).mp hvs
      exact ⟨.items vs, .absent, .absent⟩
    · obtain ⟨text, htext, h⟩ := bind_eq_ok.mp h
      cases h
      exact ⟨.absent, ((readText_memory v).mp htext).of_some, .absent⟩
    · obtain ⟨text, htext, h⟩ := bind_eq_ok.mp h
      cases h
      exact ⟨.absent, .absent, ((readText_memory v).mp htext).of_some⟩
  · obtain ⟨filters, explanation, error⟩ := b
    rintro ⟨hfilters, hexplanation, herror⟩
    rcases hk with rfl | rfl | rfl
    · cases hfilters
      cases hexplanation
      cases herror
      exact bind_eq_ok.mpr ⟨_, (readList_memory hv).mpr rfl, rfl⟩
    · cases hfilters
      cases herror
      exact bind_eq_ok.mpr ⟨_, (readText_memory v).mpr (Says.of_some hexplanation), rfl⟩
    · cases hfilters
      cases hexplanation
      exact bind_eq_ok.mpr ⟨_, (readText_memory v).mpr (Says.of_some herror), rfl⟩

/-- A field that may be absent is what the first entry says of it, and then what the rest says. -/
theorem field_cons {α : Type} {R : α → Option Json → α → Prop} (hnone : ∀ {x y}, R x none y ↔ y = x)
    {key k : String} {v : Json} {rest : Entries Json} (hk : k ∉ rest.map (·.1)) {x z : α} :
    R x (Entries.get? key ((k, v) :: rest)) z ↔
      ∃ y, R x (Entries.get? key [(k, v)]) y ∧ R y (Entries.get? key rest) z := by
  simp only [Entries.get?_cons, Entries.get?_nil]
  by_cases hkey : k = key
  · subst hkey
    have hrest : Entries.get? k rest = none :=
      Entries.get?_eq_none fun e he heq => hk (List.mem_map.mpr ⟨e, he, heq⟩)
    simp [hrest, hnone]
  · simp [hkey, hnone]

theorem lists_none {x y : List Json} : Lists x none y ↔ y = x :=
  ⟨fun h => by cases h; rfl, fun h => h ▸ .absent⟩

theorem says_none {x y : Option String} : Says x none y ↔ y = x :=
  ⟨fun h => by cases h; rfl, fun h => h ▸ .absent⟩

theorem gets_nil {a b : Answer} : Gets a [] b ↔ a = b := by
  constructor
  · rintro ⟨hfilters, hexplanation, herror⟩
    obtain ⟨filters, explanation, error⟩ := b
    cases lists_none.mp hfilters
    cases says_none.mp hexplanation
    cases says_none.mp herror
    rfl
  · rintro rfl
    exact ⟨.absent, .absent, .absent⟩

theorem gets_cons {a c : Answer} {k : String} {v : Json} {rest : Entries Json} (hk : k ∉ rest.map (·.1)) :
    Gets a ((k, v) :: rest) c ↔ ∃ b, Gets a [(k, v)] b ∧ Gets b rest c := by
  constructor
  · rintro ⟨hfilters, hexplanation, herror⟩
    obtain ⟨filters, hf, hf'⟩ := (field_cons lists_none hk).mp hfilters
    obtain ⟨explanation, hx, hx'⟩ := (field_cons says_none hk).mp hexplanation
    obtain ⟨error, he, he'⟩ := (field_cons says_none hk).mp herror
    exact ⟨⟨filters, explanation, error⟩, ⟨hf, hx, he⟩, ⟨hf', hx', he'⟩⟩
  · rintro ⟨b, ⟨hf, hx, he⟩, ⟨hf', hx', he'⟩⟩
    exact ⟨(field_cons lists_none hk).mpr ⟨_, hf, hf'⟩, (field_cons says_none hk).mpr ⟨_, hx, hx'⟩,
      (field_cons says_none hk).mpr ⟨_, he, he'⟩⟩

/-- Entries under other keys do not matter. -/
theorem gets_other {a b : Answer} {k : String} (hk : ¬(k = "filters" ∨ k = "explanation" ∨ k = "error")) {v : Json} :
    Gets a [(k, v)] b ↔ a = b := by
  rw [← gets_nil]
  rw [not_or, not_or] at hk
  have hget (key : String) (hkey : k ≠ key) : Entries.get? key [(k, v)] = none := by
    rw [Entries.get?_cons, if_neg hkey, Entries.get?_nil]
  constructor
  · rintro ⟨hf, hx, he⟩
    rw [hget _ hk.1] at hf
    rw [hget _ hk.2.1] at hx
    rw [hget _ hk.2.2] at he
    exact ⟨hf, hx, he⟩
  · rintro ⟨hf, hx, he⟩
    refine ⟨?_, ?_, ?_⟩
    · rwa [hget _ hk.1]
    · rwa [hget _ hk.2.1]
    · rwa [hget _ hk.2.2]

/-- An answer is read from entries exactly if they say what it is. -/
theorem readObject_eq_ok {es : Entries Json} (hn : (es.map (·.1)).Nodup) (ho : ∀ e ∈ es, e.2.Ordered)
    {seen : List String} (hseen : ∀ e ∈ es, e.1 ∉ seen) {a b : Answer} :
    (∃ seen', shape.readObject .memory seen a (toEntries es) = .ok (seen', b)) ↔ Gets a es b := by
  induction es generalizing seen a with
  | nil =>
    rw [gets_nil]
    exact ⟨fun ⟨_, h⟩ => by cases h; rfl, fun h => ⟨seen, by rw [h]; rfl⟩⟩
  | cons e rest ih =>
    obtain ⟨k, v⟩ := e
    obtain ⟨hnew, hn⟩ := List.nodup_cons.mp hn
    obtain ⟨hv, ho⟩ := List.forall_mem_cons.mp ho
    obtain ⟨hk, hseen⟩ := List.forall_mem_cons.mp hseen
    have hcontains : shape.fields.contains k = true ↔ k = "filters" ∨ k = "explanation" ∨ k = "error" := by
      simp [shape]
    rw [gets_cons hnew, toEntries]
    by_cases hfield : k = "filters" ∨ k = "explanation" ∨ k = "error"
    · have hunseen : seen.contains k = false := by simpa using hk
      have hlater : ∀ e ∈ rest, e.1 ∉ k :: seen := by
        intro e he hmem
        rcases List.mem_cons.mp hmem with heq | hmem
        · exact hnew (List.mem_map.mpr ⟨e, he, heq⟩)
        · exact hseen e he hmem
      constructor
      · rintro ⟨seen', h⟩
        rw [RecordShape.readObject] at h
        obtain ⟨key, ⟨⟩, h⟩ := bind_eq_ok.mp h
        simp only [hcontains.mpr hfield, hunseen, if_true, Bool.false_eq_true, if_false] at h
        obtain ⟨a', ha', h⟩ := bind_eq_ok.mp h
        exact ⟨a', (readField_eq_ok hfield hv).mp ha', (ih hn ho hlater).mp ⟨seen', h⟩⟩
      · rintro ⟨a', ha', hrest⟩
        obtain ⟨seen', h⟩ := (ih hn ho hlater).mpr hrest
        have hread := (readField_eq_ok hfield hv).mpr ha'
        exact ⟨seen', (RecordShape.readObject_cons (hcontains.mpr hfield) hunseen hread).trans h⟩
    · have hskip : shape.readObject .memory seen a ((.ok k, toDocument v) :: toEntries rest) =
          shape.readObject .memory seen a (toEntries rest) := by
        rw [RecordShape.readObject]
        simp only [content, bind, Except.bind, mt hcontains.mp hfield, skip, fault?_toDocument]
        rfl
      simp only [hskip, gets_other hfield, exists_eq_left']
      exact ih hn ho hseen

/-- An object says what an answer is: its filters are a list or absent, its explanation and its error are each a
text, null or absent, and other keys do not matter. -/
def Of (a : Answer) (object : Json) : Prop := ∃ es, object = .obj es ∧ Gets ⟨[], none, none⟩ es a

/-- An object in memory is read as an answer exactly if it says what the answer is. -/
theorem decode_eq_ok {es : Entries Json} (h : (Json.obj es).Ordered) {a : Answer} :
    decodeValue shape.read (.obj es) = .ok a ↔ Gets ⟨[], none, none⟩ es a := by
  have habsent (seen : List String) : shape.absent? seen = none := by simp [RecordShape.absent?, shape]
  cases h with
  | obj hkeys hordered =>
    have hunseen : ∀ e ∈ es, e.1 ∉ ([] : List String) := fun _ _ => List.not_mem_nil
    rw [← readObject_eq_ok hkeys.nodup hordered hunseen]
    constructor
    · intro h
      obtain ⟨inner, ⟨⟩, h⟩ := bind_eq_ok.mp h
      obtain ⟨⟨seen, b⟩, hread, h⟩ := bind_eq_ok.mp h
      obtain ⟨⟨⟩, -, h⟩ := bind_eq_ok.mp h
      simp only [habsent] at h
      cases h
      exact ⟨seen, hread⟩
    · rintro ⟨seen, hread⟩
      refine bind_eq_ok.mpr ⟨_, rfl, bind_eq_ok.mpr ⟨_, hread, bind_eq_ok.mpr ⟨(), rfl, ?_⟩⟩⟩
      simp only [habsent]
      rfl

/-! ### Filters of an answer -/

/-- Values that are each read as a filter. -/
def Read (vs : List Json) (filters : List Filter) : Prop :=
  List.Forall₂ (fun v f => decodeValue Filter.read v = .ok f) vs filters

/-- Filters are had from all values or from none. -/
theorem filtersFrom_eq_ok {i : Nat} {vs : List Json} {filters : List Filter} :
    filtersFrom i vs = .ok filters ↔ Read vs filters := by
  unfold Read
  induction vs generalizing i filters with
  | nil => simp [filtersFrom, eq_comm]
  | cons v vs ih =>
    rw [filtersFrom, List.forall₂_cons_left_iff]
    cases hv : decodeValue Filter.read v with
    | error e => simp
    | ok f =>
      simp only [map_eq_ok, ih, Except.ok.injEq]
      constructor
      · rintro ⟨rest, hrest, rfl⟩
        exact ⟨f, rest, rfl, hrest, rfl⟩
      · rintro ⟨_, rest, rfl, hrest, rfl⟩
        exact ⟨rest, hrest, rfl⟩

/-- The first value that is no filter is reported, by its position and with the reason. -/
theorem filtersFrom_eq_error {i k : Nat} {vs : List Json} {v : Json} {e : DecodeError} (hv : vs[k]? = some v)
    (he : decodeValue Filter.read v = .error e) (hbefore : ∀ w ∈ vs.take k, ∃ f, decodeValue Filter.read w = .ok f) :
    filtersFrom i vs = .error (.invalidResponse ("filter " ++ toString (i + k) ++ ": " ++ e.message)) := by
  induction vs generalizing i k with
  | nil => cases hv
  | cons w vs ih =>
    cases k with
    | zero =>
      cases hv
      rw [filtersFrom, he]
      rfl
    | succ k =>
      rw [List.take_succ_cons, List.forall_mem_cons] at hbefore
      obtain ⟨⟨f, hf⟩, hbefore⟩ := hbefore
      have hrest := @ih (i + 1) k hv hbefore
      rw [filtersFrom, hf]
      simp only [hrest, Except.map]
      rw [Nat.add_right_comm, Nat.add_assoc]

end Model.Answer

namespace Model

open Json

/-! ### The plan in an object -/

/-- A text that says something. -/
def Answer.Declines (a : Answer) (reason : String) : Prop := a.error = some reason ∧ Text.isBlank reason = false

/-- What comes of an object: a plan of all that it says, or none. -/
structure Verdict (queryText : String) (object : Json) (result : Except CompileError Plan) : Prop where
  /-- An object that is no answer is refused, whatever it says. -/
  misshapen : (∀ a : Answer, ¬a.Of object) →
    ∃ e : DecodeError, result = .error (.invalidResponse ("unexpected response shape: " ++ e.message))
  /-- An answer that gives a reason against a plan is refused with the reason, whatever its filters are. -/
  declined : ∀ (a : Answer) reason, a.Of object → a.Declines reason → result = .error (.invalidResponse
    ("model could not express the question as filters: " ++ Text.trim reason))
  /-- Any other answer is refused if one of its filters cannot be read; the first of them is named. -/
  misread : ∀ (a : Answer) i v e, a.Of object → (∀ reason, ¬a.Declines reason) → a.filters[i]? = some v →
    decodeValue Filter.read v = .error e → (∀ w ∈ a.filters.take i, ∃ f, decodeValue Filter.read w = .ok f) →
    result = .error (.invalidResponse ("filter " ++ toString i ++ ": " ++ e.message))
  /-- If all can be read, there is a plan. -/
  taken : ∀ (a : Answer) filters, a.Of object → (∀ reason, ¬a.Declines reason) → Answer.Read a.filters filters →
    ∃ p, result = .ok p
  /-- A plan has just the filters of the answer, in order, and nothing else than the question's text. -/
  whole : ∀ p, result = .ok p → ∃ a : Answer, a.Of object ∧ (∀ reason, ¬a.Declines reason) ∧
    Answer.Read a.filters p.filters ∧ p.queryText = queryText ∧ p.limit = none ∧ p.softFilters = [] ∧
    p.retryAttempt = false

theorem nonBlank_eq_some {a : Answer} {reason : String} :
    Answer.nonBlank a.error = some reason ↔ a.Declines reason := by
  simp [Answer.nonBlank, Answer.Declines, Option.filter_eq_some_iff]

theorem nonBlank_eq_none {a : Answer} (h : ∀ reason, ¬a.Declines reason) : Answer.nonBlank a.error = none := by
  cases hreason : Answer.nonBlank a.error with
  | none => rfl
  | some reason => exact absurd (nonBlank_eq_some.mp hreason) (h reason)

/-- An object is taken whole or not at all. -/
theorem verdict_planOf (model queryText : String) {object : Json} (h : object.Ordered)
    (hobject : isObject object = true) : Verdict queryText object (planOf model queryText object) := by
  obtain ⟨es, rfl⟩ := isObject_iff.mp hobject
  have hof {a : Answer} : a.Of (.obj es) ↔ decodeValue Answer.shape.read (.obj es) = .ok a := by
    rw [Answer.decode_eq_ok h]
    constructor
    · rintro ⟨_, ⟨⟩, hgets⟩
      exact hgets
    · exact fun hgets => ⟨es, rfl, hgets⟩
  have hdeclined (a : Answer) reason (ha : a.Of (.obj es)) (hreason : a.Declines reason) :
      planOf model queryText (.obj es) = .error (.invalidResponse
        ("model could not express the question as filters: " ++ Text.trim reason)) := by
    simp only [planOf, hof.mp ha, pure_bind, nonBlank_eq_some.mpr hreason]
    rfl
  refine ⟨?_, hdeclined, ?_, ?_, ?_⟩
  · intro hnone
    cases hread : decodeValue Answer.shape.read (.obj es) with
    | ok a => exact absurd (hof.mpr hread) (hnone a)
    | error e => exact ⟨e, by simp only [planOf, hread]; rfl⟩
  · intro a i v e ha hreason hv he hbefore
    have hfilters := Answer.filtersFrom_eq_error (i := 0) hv he hbefore
    rw [Nat.zero_add] at hfilters
    simp only [planOf, hof.mp ha, pure_bind, nonBlank_eq_none hreason, hfilters]
    rfl
  · intro a filters ha hreason hfilters
    simp only [planOf, hof.mp ha, pure_bind, nonBlank_eq_none hreason, Answer.filtersFrom_eq_ok.mpr hfilters]
    exact ⟨_, rfl⟩
  · intro p hp
    obtain ⟨a, filters, ha, hfilters, plan, rfl, hplan⟩ := planOf_eq_ok hp
    have hspared (reason : String) (hreason : a.Declines reason) : False := by
      rw [hdeclined a reason (hof.mpr ha) hreason] at hp
      cases hp
    have hread := Answer.filtersFrom_eq_ok.mp hfilters
    have hretry {key : String} (hkey : key ≠ Plan.Key.retryAttempt) (q : Plan) (v : Json) :
        (q.withDebug key v).retryAttempt = q.retryAttempt := by
      simp only [Plan.retryAttempt, Plan.withDebug, Entries.get?_insert, if_neg hkey]
    refine ⟨a, hof.mpr ha, hspared, ?_⟩
    rcases hplan with rfl | ⟨text, rfl⟩
    · refine ⟨hread, rfl, rfl, rfl, ?_⟩
      rw [hretry (by decide), hretry (by decide)]
      rfl
    · refine ⟨hread, rfl, rfl, rfl, ?_⟩
      rw [hretry (by decide), hretry (by decide), hretry (by decide)]
      rfl

/-! ### The object that is used -/

/-- What is extracted from an answer is an object whose keys are in order. -/
theorem ordered_of_extractObject {answer : String} {object : Json} (h : extractObject answer = .ok object) :
    object.Ordered ∧ isObject object = true := by
  obtain ⟨before, taken, after, -, -, -, hparse⟩ := extractObject_eq_ok.mp h
  obtain ⟨d, hread, hv⟩ := parse_eq_ok.mp hparse
  have hsound := read_sound (String.ofList ('\x7b' :: taken)).toList
  rw [hread] at hsound
  exact ⟨(readAny_wellFormed d hsound hv).1.ordered, isObject_of_parse hparse⟩

namespace Compiler

variable {σ : Type} {c : Compiler σ} {prompt : String} {s : σ}

/-- The answer to a prompt is to be repaired: no object can be extracted from it. -/
structure Repairs (c : Compiler σ) (prompt : String) (s : σ) (answer : String) (problem : AnswerError) : Prop where
  repair : c.repair = true
  answered : (c.ask prompt s).1 = .ok answer
  fails : extractObject answer = .error problem

/-- What the provider gives for a repair of the answer to a prompt. -/
def repaired (c : Compiler σ) (prompt : String) (s : σ) (answer : String) (problem : AnswerError) :
    Except CompileError String :=
  (c.ask (repairPrompt prompt answer problem.message) (c.ask prompt s).2).1

/-- The object that is used is that of the first answer, or that of its repair if it holds none. -/
inductive Uses (c : Compiler σ) (prompt : String) (s : σ) (object : Json) : Prop where
  | first {answer : String} (hanswer : (c.ask prompt s).1 = .ok answer) (hobject : extractObject answer = .ok object)
  | repair {answer again : String} {problem : AnswerError} (hrepairs : c.Repairs prompt s answer problem)
      (hagain : c.repaired prompt s answer problem = .ok again) (hobject : extractObject again = .ok object)

theorem Uses.object {object : Json} (h : c.Uses prompt s object) : object.Ordered ∧ isObject object = true := by
  cases h with
  | first _ hobject => exact ordered_of_extractObject hobject
  | repair _ _ hobject => exact ordered_of_extractObject hobject

theorem askObject_of_error {e : CompileError} (h : (c.ask prompt s).1 = .error e) :
    (c.askObject prompt s).1 = .error e := by
  unfold askObject
  rw [bind_apply, h]
  rfl

theorem askObject_of_object {answer : String} {object : Json} (hanswer : (c.ask prompt s).1 = .ok answer)
    (hobject : extractObject answer = .ok object) : (c.askObject prompt s).1 = .ok object := by
  unfold askObject
  rw [bind_apply, hanswer]
  simp only [hobject]
  rfl

theorem askObject_of_problem {answer : String} {problem : AnswerError} (hanswer : (c.ask prompt s).1 = .ok answer)
    (hproblem : extractObject answer = .error problem) (hrepair : c.repair = false) :
    (c.askObject prompt s).1 = .error (.invalidResponse problem.message) := by
  unfold askObject
  rw [bind_apply, hanswer]
  simp only [hproblem, hrepair]
  rfl

theorem askObject_of_unrepaired {answer : String} {problem : AnswerError} {e : CompileError}
    (h : c.Repairs prompt s answer problem) (he : c.repaired prompt s answer problem = .error e) :
    (c.askObject prompt s).1 = .error e := by
  unfold repaired at he
  unfold askObject
  rw [bind_apply, h.answered]
  simp only [h.fails, h.repair, if_true]
  rw [bind_apply, he]
  rfl

theorem askObject_of_repaired {answer again : String} {problem : AnswerError}
    (h : c.Repairs prompt s answer problem) (hagain : c.repaired prompt s answer problem = .ok again) :
    (c.askObject prompt s).1 = (extractObject again).mapError fun e => .invalidResponse e.message := by
  unfold repaired at hagain
  unfold askObject
  rw [bind_apply, h.answered]
  simp only [h.fails, h.repair, if_true]
  rw [bind_apply, hagain]
  simp only [pure_apply]

/-- What is asked for is the object that is used. -/
theorem askObject_eq_ok {object : Json} : (c.askObject prompt s).1 = .ok object ↔ c.Uses prompt s object := by
  constructor
  · intro h
    cases hanswer : (c.ask prompt s).1 with
    | error e =>
      rw [askObject_of_error hanswer] at h
      cases h
    | ok answer =>
      cases hfound : extractObject answer with
      | ok found =>
        rw [askObject_of_object hanswer hfound] at h
        cases h
        exact .first hanswer hfound
      | error problem =>
        cases hrepair : c.repair with
        | false =>
          rw [askObject_of_problem hanswer hfound hrepair] at h
          cases h
        | true =>
          have hrepairs : c.Repairs prompt s answer problem := ⟨hrepair, hanswer, hfound⟩
          cases hagain : c.repaired prompt s answer problem with
          | error e =>
            rw [askObject_of_unrepaired hrepairs hagain] at h
            cases h
          | ok again =>
            rw [askObject_of_repaired hrepairs hagain] at h
            refine .repair hrepairs hagain ?_
            cases hobject : extractObject again with
            | error e =>
              rw [hobject] at h
              cases h
            | ok found =>
              rw [hobject] at h
              cases h
              rfl
  · intro h
    cases h with
    | first hanswer hobject => exact askObject_of_object hanswer hobject
    | repair hrepairs hagain hobject =>
      rw [askObject_of_repaired hrepairs hagain, hobject]
      rfl

/-- An answer that is to be repaired costs a second request. -/
theorem asked_of_repairs {answer : String} {problem : AnswerError} (h : c.Repairs prompt s answer problem) :
    c.asked prompt s = [request prompt, request (repairPrompt prompt answer problem.message)] := by
  simp only [asked, repairRequest?, h.answered, h.fails, h.repair, if_true, Option.toList_some]

theorem asked_once (h : ∀ answer problem, ¬c.Repairs prompt s answer problem) :
    c.asked prompt s = [request prompt] := by
  unfold asked repairRequest?
  cases hanswer : (c.ask prompt s).1 with
  | error e => rfl
  | ok answer =>
    cases hproblem : extractObject answer with
    | ok object => simp only [hproblem, Option.toList_none]
    | error problem =>
      have hrepair : ¬c.repair = true := fun hrepair => h answer problem ⟨hrepair, hanswer, hproblem⟩
      simp only [hproblem, if_neg hrepair, Option.toList_none]

/-- What a question with a prompt costs, and what comes of it. -/
structure TakesWhole (c : Compiler σ) (queryText prompt : String) (s : σ) (requests : List Request)
    (result : Except CompileError Plan) : Prop where
  /-- There is no second request unless the first answer is to be repaired, -/
  once : (∀ answer problem, ¬c.Repairs prompt s answer problem) → requests = [request prompt]
  /-- and never a third. -/
  twice : ∀ answer problem, c.Repairs prompt s answer problem →
    requests = [request prompt, request (repairPrompt prompt answer problem.message)]
  /-- An error of the provider is returned as it is, -/
  failed : ∀ e, (c.ask prompt s).1 = .error e → result = .error e
  /-- also when a repair is asked for. -/
  unrepaired : ∀ answer problem e, c.Repairs prompt s answer problem → c.repaired prompt s answer problem = .error e →
    result = .error e
  /-- It is an error if an answer that is not to be repaired holds no object, -/
  empty : ∀ answer problem, c.repair = false → (c.ask prompt s).1 = .ok answer →
    extractObject answer = .error problem → result = .error (.invalidResponse problem.message)
  /-- or if the repair holds none. -/
  emptyAgain : ∀ answer problem again problem', c.Repairs prompt s answer problem →
    c.repaired prompt s answer problem = .ok again → extractObject again = .error problem' →
    result = .error (.invalidResponse problem'.message)
  /-- Otherwise there is an object that decides, -/
  used : ∀ object, c.Uses prompt s object → Verdict queryText object result
  /-- and without one there is no plan. -/
  plan : ∀ p, result = .ok p → ∃ object, c.Uses prompt s object

/-- Whatever a provider answers, there are at most two requests, and the plan is that of the one object that is
used, if the object is an answer that can be taken whole. -/
theorem requestPlan_takesWhole (c : Compiler σ) (queryText prompt : String) (s : σ) (log : List Request) :
    ∃ requests, c.recorded.requestPlan queryText prompt (s, log) =
        ((c.requestPlan queryText prompt s).1, (c.requestPlan queryText prompt s).2, log ++ requests) ∧
      c.TakesWhole queryText prompt s requests (c.requestPlan queryText prompt s).1 := by
  refine ⟨c.asked prompt s, requestPlan_recorded c queryText prompt s log, ?_⟩
  have hresult {found : Except CompileError Json} (h : (c.askObject prompt s).1 = found) :
      (c.requestPlan queryText prompt s).1 = found >>= planOf c.provider.model queryText := by
    rw [requestPlan_fst, h]
  refine ⟨asked_once, fun _ _ => asked_of_repairs, ?_, ?_, ?_, ?_, ?_, ?_⟩
  · exact fun e he => hresult (askObject_of_error he)
  · exact fun answer problem e hrepairs he => hresult (askObject_of_unrepaired hrepairs he)
  · exact fun answer problem hrepair hanswer hproblem => hresult (askObject_of_problem hanswer hproblem hrepair)
  · intro answer problem again problem' hrepairs hagain hproblem
    rw [hresult (askObject_of_repaired hrepairs hagain), hproblem]
    rfl
  · intro object huses
    obtain ⟨hordered, hobject⟩ := huses.object
    rw [hresult (askObject_eq_ok.mpr huses)]
    exact verdict_planOf c.provider.model queryText hordered hobject
  · intro p hp
    rw [requestPlan_fst] at hp
    obtain ⟨object, hobject, -⟩ := bind_eq_ok.mp hp
    exact ⟨object, askObject_eq_ok.mp hobject⟩

/-- An object with a reason, and with filters that are none. -/
def reasoned (filters : Json) : Json := .obj [("error", .str " no "), ("filters", filters)]

theorem extractObject_reasoned {filters : Json} (h : filters.WellFormed) (hdepth : filters.depth ≤ 126) :
    extractObject (reasoned filters).compact = .ok (reasoned filters) := by
  refine extractObject_compact ⟨.obj ?_, .obj ?_ ?_⟩ ?_
  · exact List.forall_mem_cons.mpr ⟨.str _, List.forall_mem_singleton.mpr h.writable⟩
  · exact List.pairwise_pair.mpr (show "error" < "filters" by decide)
  · exact List.forall_mem_cons.mpr ⟨.str _, List.forall_mem_singleton.mpr h.ordered⟩
  · simp only [depth, depthEntries]
    omega

/-- A script gives its answers one after the other. -/
theorem ask_scripted (prompt answer : String) (rest : List (Except CompileError String)) :
    scripted.ask prompt (.ok answer :: rest) = (.ok answer, rest) := rfl

/-- No object, and then one with a value that is no filter. -/
def repairedScript : List (Except CompileError String) := [.ok "none", .ok (reasoned (.arr [.null])).compact]

/-- The first answer holds no object. That of the repair is refused with its reason, although it also has a
value that is no filter. -/
theorem requestPlan_takesWhole_reasoned :
    ∃ requests : List Request, requests.length = 2 ∧
      (scripted.recorded.requestPlan "q" "Q" (repairedScript, [])).2.2 = requests ∧
      (scripted.requestPlan "q" "Q" repairedScript).1 =
        .error (.invalidResponse "model could not express the question as filters: no") := by
  obtain ⟨requests, hout, htakes⟩ := requestPlan_takesWhole scripted "q" "Q" repairedScript []
  have hnone : (extractObject "none").isOk = false := by decide +kernel
  cases hproblem : extractObject "none" with
  | ok object =>
    rw [hproblem] at hnone
    cases hnone
  | error problem =>
    have hrepairs : scripted.Repairs "Q" repairedScript "none" problem :=
      ⟨rfl, congrArg Prod.fst (ask_scripted ..), hproblem⟩
    have hrepaired : scripted.repaired "Q" repairedScript "none" problem = .ok (reasoned (.arr [.null])).compact := by
      rw [repaired, repairedScript, ask_scripted, ask_scripted]
    have hobject := @extractObject_reasoned (.arr [.null])
      ⟨.arr (List.forall_mem_singleton.mpr .null), .arr (List.forall_mem_singleton.mpr .null)⟩ (by decide)
    have hverdict := htakes.used _ (.repair hrepairs hrepaired hobject)
    have hanswer : Answer.Of ⟨[.null], none, some " no "⟩ (reasoned (.arr [.null])) :=
      ⟨_, rfl, .items [.null], .absent, .text " no "⟩
    have hdeclined := hverdict.declined _ " no " hanswer ⟨rfl, by decide⟩
    have hmessage : "model could not express the question as filters: " ++ Text.trim " no " =
        "model could not express the question as filters: no" := by decide
    rw [hmessage] at hdeclined
    refine ⟨requests, ?_, ?_, hdeclined⟩
    · rw [htakes.twice _ _ hrepairs]
      rfl
    · rw [hout, List.nil_append]

/-- The reason in an object that is no answer is not told. -/
theorem reason_untold :
    scripted.Uses "Q" [.ok (reasoned .null).compact] (reasoned .null) ∧
      (reasoned .null).get? "error" = some (.str " no ") ∧ Text.isBlank " no " = false ∧
      (scripted.requestPlan "q" "Q" [.ok (reasoned .null).compact]).1 =
        .error (.invalidResponse "unexpected response shape: invalid type: null, expected a sequence") := by
  have huses : scripted.Uses "Q" [.ok (reasoned .null).compact] (reasoned .null) :=
    .first (congrArg Prod.fst (ask_scripted ..)) (extractObject_reasoned ⟨.null, .null⟩ (by decide))
  refine ⟨huses, rfl, by decide, ?_⟩
  rw [requestPlan_fst, askObject_eq_ok.mpr huses]
  rfl

end Compiler

end Model
end Catalogue
