import Catalogue.Plan.Basic
import Catalogue.Proofs.Filter.Codec

/-! Plans and their JSON. A sound plan of the current version is read back from its
compact text if it is not nested deeper than a text may be (`parse_compact`). Every plan
that is read from a text is such a plan (`sound_of_parse`), and so is one that the
constructors build from well-formed values (`sound_of_built`). A plan therefore stays
the same however often it is written and read (`reload_faithful`). -/
namespace Catalogue.Plan

open Json Number

/-- A plan that can be held in memory, whose filters keep all rules, without a limit of zero. -/
structure Sound (p : Plan) : Prop where
  filters : ∀ f ∈ p.filters, f.Sound
  softFilters : ∀ f ∈ p.softFilters, f.Sound
  limit : ∀ n ∈ p.limit, 0 < n ∧ (n : Int) ≤ nat64.high
  keys : Entries.Ascending p.debug
  debug : ∀ e ∈ p.debug, e.2.WellFormed

/-! ### Writing -/

/-- A limit as it is written. -/
def limitJson : Option Nat → Json
  | some n => .nat n
  | none => .null

theorem toJson_eq (p : Plan) :
    p.toJson = .obj [("version", .nat p.version), ("query_text", .str p.queryText),
      ("filters", .arr (p.filters.map Filter.toJson)), ("soft_filters", .arr (p.softFilters.map Filter.toJson)),
      ("limit", limitJson p.limit), ("debug", .obj p.debug)] := by
  cases h : p.limit <;> simp only [toJson, limitJson, h]

theorem word_nat {n : Nat} (h : (n : Int) ≤ nat64.high) : Word n :=
  ⟨le_trans (by decide) (Int.natCast_nonneg n), h⟩

theorem writable_filters {fs : List Filter} (h : ∀ f ∈ fs, f.Sound) : (arr (fs.map Filter.toJson)).Writable := by
  refine .arr fun v hv => ?_
  obtain ⟨f, hf, rfl⟩ := List.mem_map.mp hv
  exact Filter.writable_toJson (h f hf)

/-- A plan can be written if its numbers are of 64 bits, its filters are sound, and its debug values can be
written. -/
theorem writable_of_parts {p : Plan} (hversion : nat32.holds p.version) (hfilters : ∀ f ∈ p.filters, f.Sound)
    (hsoft : ∀ f ∈ p.softFilters, f.Sound) (hlimit : ∀ n ∈ p.limit, (n : Int) ≤ nat64.high)
    (hdebug : ∀ e ∈ p.debug, e.2.Writable) : p.toJson.Writable := by
  have hwritten : (limitJson p.limit).Writable := by
    cases hl : p.limit with
    | none => exact .null
    | some n => exact .int (word_nat (hlimit n hl))
  have hone : (nat p.version).Writable :=
    .int (word_nat (le_trans (IntRange.holds_iff.mp hversion).2 (by decide)))
  rw [toJson_eq]
  refine .obj ?_
  simp only [List.forall_mem_cons]
  exact ⟨hone, .str _, writable_filters hfilters, writable_filters hsoft, hwritten, .obj hdebug,
    List.forall_mem_nil _⟩

/-- A sound plan can be written. -/
theorem writable_toJson {p : Plan} (hversion : nat32.holds p.version) (h : p.Sound) : p.toJson.Writable :=
  writable_of_parts hversion h.filters h.softFilters (fun n hn => (h.limit n hn).2) fun e he =>
    (h.debug e he).writable

/-- A plan is nested two levels deeper than its debug values, or as deep as its filters. -/
theorem depth_toJson {p : Plan} {n : Nat} (hn : 2 ≤ n) (h : ∀ e ∈ p.debug, e.2.depth ≤ n) :
    p.toJson.depth ≤ n + 2 := by
  have hfilters (fs : List Filter) : (arr (fs.map Filter.toJson)).depth ≤ n + 1 := by
    refine depth_arr_le_iff.mpr fun v hv => ?_
    obtain ⟨f, -, rfl⟩ := List.mem_map.mp hv
    exact le_trans (Filter.depth_toJson f) hn
  have hdebug : (obj p.debug).depth ≤ n + 1 := depth_obj_le_iff.mpr h
  have hlimit : (limitJson p.limit).depth ≤ n + 1 := by cases p.limit <;> exact Nat.zero_le _
  rw [toJson_eq]
  refine depth_obj_le_iff.mpr ?_
  simp only [List.forall_mem_cons]
  exact ⟨Nat.zero_le _, Nat.zero_le _, hfilters _, hfilters _, hlimit, hdebug, List.forall_mem_nil _⟩

/-- The debug values of a plan are nested two levels less deep than the plan. -/
theorem depth_debug {p : Plan} {n : Nat} (h : p.toJson.depth ≤ n + 2) : ∀ e ∈ p.debug, e.2.depth ≤ n := by
  rw [toJson_eq] at h
  have hdebug : (obj p.debug).depth ≤ n + 1 := depth_obj_le_iff.mp h ("debug", obj p.debug) (by simp)
  exact depth_obj_le_iff.mp hdebug

/-! ### Reading what is written -/

theorem readField_limit {limit : Option Nat} (h : ∀ n ∈ limit, 0 < n ∧ (n : Int) ≤ nat64.high) (p : Plan)
    (src : Source) :
    readField p "limit" src (toDocument (limitJson limit)) = .ok { p with limit := limit } := by
  cases limit with
  | none => rfl
  | some n =>
    obtain ⟨hpos, hhigh⟩ := h n rfl
    have hread : readOption (readInt "usize" nat64) src (toDocument (nat n)) = .ok (some (n : Int)) :=
      map_eq_ok.mpr ⟨_, readInt_int (IntRange.holds_iff.mpr ⟨Int.natCast_nonneg n, hhigh⟩) src, rfl⟩
    refine bind_eq_ok.mpr ⟨_, hread, ?_⟩
    simp only [Option.map_some, Int.toNat_natCast, positive, Option.filter_some, hpos, decide_true, if_true]
    rfl

theorem readList_filters {n : Nat} (hn : 3 < n) {fs : List Filter} (h : ∀ f ∈ fs, f.Sound) :
    readList Filter.read ⟨true, n⟩ (toDocument (arr (fs.map Filter.toJson))) = .ok fs :=
  readList_map (by omega) fun f hf => Filter.read_toJson (h f hf) (by omega)

theorem readField_filters {n : Nat} (hn : 3 < n) {fs : List Filter} (h : ∀ f ∈ fs, f.Sound) (p : Plan) :
    readField p "filters" ⟨true, n⟩ (toDocument (arr (fs.map Filter.toJson))) = .ok { p with filters := fs } :=
  bind_eq_ok.mpr ⟨_, readList_filters hn h, rfl⟩

theorem readField_softFilters {n : Nat} (hn : 3 < n) {fs : List Filter} (h : ∀ f ∈ fs, f.Sound) (p : Plan) :
    readField p "soft_filters" ⟨true, n⟩ (toDocument (arr (fs.map Filter.toJson))) =
      .ok { p with softFilters := fs } :=
  bind_eq_ok.mpr ⟨_, readList_filters hn h, rfl⟩

theorem readField_debug {n : Nat} (hn : 1 < n) {es : Entries Json} (hkeys : Entries.Ascending es)
    (he : ∀ e ∈ es, e.2.WellFormed) (hdepth : ∀ e ∈ es, e.2.depth < n - 1) (p : Plan) :
    readField p "debug" ⟨true, n⟩ (toDocument (obj es)) = .ok { p with debug := es } :=
  bind_eq_ok.mpr ⟨_, readEntries_obj hkeys (fun e h => (he e h).ordered) hn hdepth, rfl⟩

theorem readField_version {n : Nat} (h : nat32.holds n) (p : Plan) (src : Source) :
    readField p "version" src (toDocument (nat n)) = .ok { p with version := n } :=
  bind_eq_ok.mpr ⟨n, readInt_int h src, rfl⟩

/-- A sound plan is read back from its JSON where there is depth enough for it, whatever its version. -/
theorem read_toJson {p : Plan} (hversion : nat32.holds p.version) (h : p.Sound) {n : Nat} (hn : 4 < n)
    (hdepth : p.toJson.depth < n) : Plan.read ⟨true, n⟩ (toDocument p.toJson) = .ok p := by
  have hnested : ∀ e ∈ p.debug, e.2.depth < n - 1 - 1 := by
    obtain ⟨m, rfl⟩ : ∃ m, n = m + 3 := ⟨n - 3, by omega⟩
    exact fun e he => Nat.lt_succ_of_le (depth_debug (Nat.le_of_lt_succ hdepth) e he)
  rw [toJson_eq]
  obtain ⟨version, queryText, filters, softFilters, limit, debug⟩ := p
  have hinner : 3 < n - 1 := by omega
  refine RecordShape.read_object (by omega) ["debug", "limit", "soft_filters", "filters", "query_text", "version"]
    ((RecordShape.readObject_cons rfl rfl (readField_version hversion _ _)).trans ?_) rfl
  refine (RecordShape.readObject_cons rfl rfl rfl).trans ?_
  refine (RecordShape.readObject_cons rfl rfl (readField_filters hinner h.filters _)).trans ?_
  refine (RecordShape.readObject_cons rfl rfl (readField_softFilters hinner h.softFilters _)).trans ?_
  refine (RecordShape.readObject_cons rfl rfl (readField_limit h.limit _ _)).trans ?_
  exact RecordShape.readObject_cons rfl rfl (readField_debug (by omega) h.keys h.debug hnested _)

/-- A sound plan of any version is read back from its text, if versions are not compared. -/
theorem decode_compact {p : Plan} (hversion : nat32.holds p.version) (h : p.Sound) (hdepth : p.toJson.depth ≤ 127) :
    Json.decode Plan.read p.compact = .ok p := by
  rw [compact, Json.decode_compact (writable_toJson hversion h)]
  exact read_toJson hversion h (by decide) (Nat.lt_succ_of_le hdepth)

/-- A sound plan is read back from its text. -/
theorem parse_compact {p : Plan} (hversion : p.version = currentVersion) (h : p.Sound)
    (hdepth : p.toJson.depth ≤ 127) : Plan.parse p.compact = .ok p := by
  have hholds : nat32.holds p.version := by rw [hversion]; decide
  refine bind_eq_ok.mpr ⟨p, decode_compact hholds h hdepth, ?_⟩
  rw [if_neg (not_not.mpr hversion)]
  rfl

/-- A plan of another version is refused. -/
theorem parse_compact_refused {p : Plan} (hversion : p.version ≠ currentVersion) (hholds : nat32.holds p.version)
    (h : p.Sound) (hdepth : p.toJson.depth ≤ 127) :
    Plan.parse p.compact = .error (.content (.refused (versionMessage p.version))) := by
  unfold parse
  simp only [decode_compact hholds h hdepth, bind, Except.bind]
  rw [if_pos hversion]
  rfl

/-! ### Reading any text -/

theorem sound_readField {p q : Plan} {name : String} {d : Document}
    (hp : p.Sound ∧ ∀ e ∈ p.debug, e.2.depth ≤ 125) (hd : d.Sound) (h : readField p name ⟨true, 127⟩ d = .ok q) :
    q.Sound ∧ ∀ e ∈ q.debug, e.2.depth ≤ 125 := by
  obtain ⟨hp, hdepth⟩ := hp
  have hfilters {fs : List Filter} (h : readList Filter.read ⟨true, 127⟩ d = .ok fs) : ∀ f ∈ fs, f.Sound :=
    forall_mem_readList (fun _ hf => Filter.sound_of_read hf) hd h
  unfold readField at h
  split at h
  all_goals obtain ⟨v, hv, h⟩ := bind_eq_ok.mp h
  all_goals cases h
  case h_1 | h_2 => exact ⟨⟨hp.filters, hp.softFilters, hp.limit, hp.keys, hp.debug⟩, hdepth⟩
  case h_3 => exact ⟨⟨hfilters hv, hp.softFilters, hp.limit, hp.keys, hp.debug⟩, hdepth⟩
  case h_4 => exact ⟨⟨hp.filters, hfilters hv, hp.limit, hp.keys, hp.debug⟩, hdepth⟩
  case h_5 =>
    refine ⟨⟨hp.filters, hp.softFilters, fun n hn => ?_, hp.keys, hp.debug⟩, hdepth⟩
    obtain ⟨hn, hpos⟩ := Option.filter_eq_some_iff.mp (Option.mem_def.mp hn)
    obtain ⟨m, hm, rfl⟩ := Option.map_eq_some_iff.mp hn
    obtain ⟨hlow, hhigh⟩ := IntRange.holds_iff.mp (holds_of_readInt (mem_readOption hv hm))
    refine ⟨of_decide_eq_true hpos, ?_⟩
    rw [Int.toNat_of_nonneg hlow]
    exact hhigh
  case h_6 =>
    have hentries := readEntries_wellFormed hd hv
    exact ⟨⟨hp.filters, hp.softFilters, hp.limit, hentries.keys, fun e he => (hentries.values e he).1⟩,
      fun e he => (hentries.values e he).2⟩

theorem sound_ofText (queryText : String) : (ofText queryText).Sound where
  filters := List.forall_mem_nil _
  softFilters := List.forall_mem_nil _
  limit := fun _ h => absurd h (Option.not_mem_none _)
  keys := List.Pairwise.nil
  debug := List.forall_mem_nil _

/-- Every plan that is read from a text is sound, of the current version, and nested no deeper than a
text may be. -/
theorem sound_of_parse {s : String} {p : Plan} (h : Plan.parse s = .ok p) :
    p.version = currentVersion ∧ p.Sound ∧ p.toJson.depth ≤ 127 := by
  obtain ⟨q, hq, h⟩ := bind_eq_ok.mp h
  obtain ⟨r, hr, hmore⟩ := bind_eq_ok.mp hq
  have hrq : r = q := by
    split at hmore
    · cases hmore
    · exact Except.ok.inj hmore
  subst hrq
  obtain ⟨hsound, hdepth⟩ := RecordShape.read_preserves
    (P := fun p => p.Sound ∧ ∀ e ∈ p.debug, e.2.depth ≤ 125) ⟨sound_ofText "", List.forall_mem_nil _⟩
    (fun hinner hp hd h => sound_readField hp hd ((enter_eq_ok hinner).2 ▸ h)) (read_sound _).parts hr
  split at h
  · cases h
  · rename_i hversion
    cases h
    exact ⟨not_not.mp hversion, hsound, depth_toJson (by decide) hdepth⟩

/-! ### Constructors -/

/-- The plans that the constructors build from values that can be held in memory. -/
inductive Built : Plan → Prop where
  | ofText (queryText : String) : Built (ofText queryText)
  | withFilters {p : Plan} (h : Built p) {fs : List Filter} (hf : ∀ f ∈ fs, f.Built) : Built (p.withFilters fs)
  | withSoftFilters {p : Plan} (h : Built p) {fs : List Filter} (hf : ∀ f ∈ fs, f.Built) :
      Built (p.withSoftFilters fs)
  | withLimit {p : Plan} (h : Built p) {limit : Option Nat} (hl : ∀ n ∈ limit, (n : Int) ≤ nat64.high) :
      Built (p.withLimit limit)
  | withDebug {p : Plan} (h : Built p) (key : String) {value : Json} (hv : value.WellFormed) :
      Built (p.withDebug key value)

theorem sound_withLimit {p : Plan} (h : p.Sound) {limit : Option Nat} (hl : ∀ n ∈ limit, (n : Int) ≤ nat64.high) :
    (p.withLimit limit).Sound := by
  refine ⟨h.filters, h.softFilters, fun n hn => ?_, h.keys, h.debug⟩
  obtain ⟨hn, hpos⟩ := Option.filter_eq_some_iff.mp (Option.mem_def.mp hn)
  exact ⟨of_decide_eq_true hpos, hl n hn⟩

theorem sound_withDebug {p : Plan} (h : p.Sound) (key : String) {value : Json} (hv : value.WellFormed) :
    (p.withDebug key value).Sound := by
  refine ⟨h.filters, h.softFilters, h.limit, Entries.ascending_insert _ _ h.keys, fun e he => ?_⟩
  rcases Entries.mem_insert he with rfl | he
  · exact hv
  · exact h.debug e he

/-- Every plan that the constructors build is sound and of the current version. -/
theorem sound_of_built {p : Plan} (h : p.Built) : p.version = currentVersion ∧ p.Sound := by
  induction h with
  | ofText queryText => exact ⟨rfl, sound_ofText queryText⟩
  | withFilters _ hf ih =>
    obtain ⟨hversion, ih⟩ := ih
    exact ⟨hversion, fun f h => Filter.sound_of_built (hf f h), ih.softFilters, ih.limit, ih.keys, ih.debug⟩
  | withSoftFilters _ hf ih =>
    obtain ⟨hversion, ih⟩ := ih
    exact ⟨hversion, ih.filters, fun f h => Filter.sound_of_built (hf f h), ih.limit, ih.keys, ih.debug⟩
  | withLimit _ hl ih => exact ⟨ih.1, sound_withLimit ih.2 hl⟩
  | withDebug _ key hv ih => exact ⟨ih.1, sound_withDebug ih.2 key hv⟩

/-! ### Reloading -/

/-- The plan after it is written and read so many times. -/
def reload : Nat → Plan → Except DecodeError Plan
  | 0, p => .ok p
  | n + 1, p => do reload n (← Plan.parse p.compact)

theorem reload_of_parse {p : Plan} (h : Plan.parse p.compact = .ok p) (n : Nat) : reload n p = .ok p := by
  induction n with
  | zero => rfl
  | succ n ih => exact bind_eq_ok.mpr ⟨p, h, ih⟩

/-- A plan that a text is accepted as, or that the constructors build with debug values that are not
nested too deep. -/
def Stored (p : Plan) : Prop :=
  (∃ s, Plan.parse s = .ok p) ∨ p.Built ∧ p.toJson.depth ≤ 127

theorem parse_compact_of_stored {p : Plan} (h : p.Stored) : Plan.parse p.compact = .ok p := by
  rcases h with ⟨s, hs⟩ | ⟨hbuilt, hdepth⟩
  · obtain ⟨hversion, hsound, hdepth⟩ := sound_of_parse hs
    exact parse_compact hversion hsound hdepth
  · obtain ⟨hversion, hsound⟩ := sound_of_built hbuilt
    exact parse_compact hversion hsound hdepth

/-- What is written of a plan is read as the same plan, is written the same again, and keeps its
canonical text and its hash however often that is done. -/
theorem reload_faithful {p : Plan} (h : p.Stored) :
    (∃ q, Plan.parse p.compact = .ok q ∧ q = p ∧ q.compact = p.compact) ∧
      ∀ n, ∃ q, reload n p = .ok q ∧ q = p ∧ q.compact = p.compact ∧ q.canonical = p.canonical ∧
        q.hash = p.hash := by
  have hparse := parse_compact_of_stored h
  exact ⟨⟨p, hparse, rfl, rfl⟩, fun n => ⟨p, reload_of_parse hparse n, rfl, rfl, rfl, rfl⟩⟩

/-- A list of fields with a whole number for a year and a limit of zero, and a plan that is built. -/
theorem reload_faithful_year :
    (∃ p, Plan.parse "[1,\"q\",[[\"year\",\"equals\",1550]],[],0]" = .ok p ∧
      ∀ n, ∃ q, reload n p = .ok q ∧ q = p) ∧
    ∃ q, Plan.parse ((ofText "q").withLimit (some 3)).compact = .ok q ∧ q.limit = some 3 := by
  constructor
  · have hok : (Plan.parse "[1,\"q\",[[\"year\",\"equals\",1550]],[],0]").isOk = true := by decide +kernel
    cases h : Plan.parse "[1,\"q\",[[\"year\",\"equals\",1550]],[],0]" with
    | error e =>
      rw [h] at hok
      cases hok
    | ok p =>
      refine ⟨p, rfl, fun n => ?_⟩
      obtain ⟨q, hq, heq, -⟩ := (reload_faithful (.inl ⟨_, h⟩)).2 n
      exact ⟨q, hq, heq⟩
  · have hbuilt : ((ofText "q").withLimit (some 3)).Built := .withLimit (.ofText "q") fun n hn => by
      obtain rfl := Option.mem_some.mp hn
      decide
    have hdepth : ((ofText "q").withLimit (some 3)).toJson.depth ≤ 127 :=
      le_trans (depth_toJson (Nat.le_refl 2) (List.forall_mem_nil _)) (by decide)
    obtain ⟨q, hq, heq, -⟩ := (reload_faithful (.inr ⟨hbuilt, hdepth⟩)).1
    exact ⟨q, hq, by rw [heq]; rfl⟩

end Catalogue.Plan
