import Catalogue.Proofs.Entries
import Catalogue.Proofs.Question.Compile
import Catalogue.Proofs.Question.Taken

/-! The plan of any question. For each of four fields a family of phrases is looked for, and what the first of them
takes becomes the one filter on that field: nothing that is taken is refused (`found?_cases`). The catalogue compares
texts in a normal form, and every text of such a plan is in that form already, so what the question was read to say
and what the statement binds are the same text (`wellFormed_compile`). -/
namespace Catalogue.Question

open Text Catalogue.Filter Index

variable {text : List Char} {field : Field}

/-! ### Families -/

/-- The fields for which a question is searched, in the order of their filters. -/
def families : List Field := [.publisher, .year, .place, .language]

/-- The name of the phrase that is found for a field. -/
def phraseFor? (text : List Char) : Field → Option String
  | .publisher => (firstPhrase publisherPhrases text).map (·.1)
  | .year => (firstPhrase yearPhrases text).map (·.1)
  | .place => (firstPhrase placePhrases text).map (·.1)
  | .language => (firstPhrase languagePhrases text).map (·.1)
  | _ => none

/-- Whether the question names the later of its years first. -/
def Reversed (text : List Char) : Prop :=
  ∃ name first last, firstPhrase yearPhrases text = some (name, first, last) ∧ last < first

/-- What a question gives for a field, as it stands in a plan: a text that is in the form in which the catalogue
compares the texts of that field, or the years that were named, the earlier first. -/
inductive Gives (text : List Char) : Field → Filter → Prop
  | key {field : Field} {t : Target} {key : String} (htarget : field.target? = some t)
    (hkey : t.normalization.apply key = key) (hplace : field = .place → PlaceKey key) :
    Gives text field ⟨field, .equals, .text key, false, none, none⟩
  | years {name : String} {first last : Int} (hfirst : IsYear first) (hlast : IsYear last)
    (hfound : firstPhrase yearPhrases text = some (name, first, last)) :
    Gives text .year ⟨.year, .range, .range (min first last) (max first last), false, none, none⟩

theorem Gives.field_eq {f : Filter} (h : Gives text field f) : f.field = field := by
  cases h with
  | key => rfl
  | years => rfl

/-- A finding for a field, from the phrase that is found for it. -/
structure FoundFor (text : List Char) (field : Field) (g : Finding) : Prop where
  family : g.family = field.name
  phrase : phraseFor? text field = some g.phrase
  filter : Gives text field g.filter

/-- What is found for a field. -/
def found? (text : List Char) : Field → Option Finding
  | .publisher => publisher? text
  | .year => (years? text).1
  | .place => place? text
  | .language => language? text
  | _ => none

/-! ### Findings -/

/-- A text that is trimmed makes a filter. -/
theorem finding?_key (hfield : field ≠ .year) {key : String} (hkey : Trimmed key) (family phrase : String) :
    finding? family phrase (Filter.equals? field key) =
      some ⟨family, phrase, ⟨field, .equals, .text key, false, none, none⟩⟩ := by
  have hfits : ValueFits field .equals (.text key) :=
    valueFits_text.mpr ⟨.inl rfl, hkey, fun _ hyear => absurd hyear hfield⟩
  rw [Filter.equals?, Filter.make?, checkValue_of_fits hfits]
  rfl

/-- Years in order make a filter. -/
theorem finding?_years {first last : Int} (h : first ≤ last) (family phrase : String) :
    finding? family phrase (Filter.range? field first last) =
      some ⟨family, phrase, ⟨field, .range, .range first last, false, none, none⟩⟩ := by
  have hvalue : checkValue field .range (.range first last) = .ok (.range first last) := if_neg (by omega)
  rw [Filter.range?, Filter.make?, hvalue]
  rfl

/-- The finding of a family of names is what its first phrase takes. -/
theorem keyed_cases {phrases : List (Phrase String)} {found : Option Finding} (hfield : field ≠ .year)
    (hphrase : phraseFor? text field = (firstPhrase phrases text).map (·.1))
    (hfound : found = (firstPhrase phrases text).bind fun m => finding? field.name m.1 (Filter.equals? field m.2))
    (htaken : ∀ name key, firstPhrase phrases text = some (name, key) →
      Trimmed key ∧ Gives text field ⟨field, .equals, .text key, false, none, none⟩) :
    (∃ g, found = some g ∧ FoundFor text field g) ∨ found = none ∧ phraseFor? text field = none := by
  cases hfirst : firstPhrase phrases text with
  | none =>
    rw [hfirst] at hphrase hfound
    exact .inr ⟨hfound, hphrase⟩
  | some m =>
    obtain ⟨name, key⟩ := m
    obtain ⟨htrimmed, hgives⟩ := htaken name key hfirst
    rw [hfirst, Option.bind_some, finding?_key hfield htrimmed] at hfound
    rw [hfirst] at hphrase
    exact .inl ⟨_, hfound, rfl, hphrase, hgives⟩

theorem publisher_cases : (∃ g, publisher? text = some g ∧ FoundFor text .publisher g) ∨
    publisher? text = none ∧ phraseFor? text .publisher = none := by
  refine keyed_cases (by decide) rfl rfl fun name key hfirst => ?_
  obtain ⟨ph, hph, -, m, -, htake⟩ := firstPhrase_eq_some hfirst
  rw [take_publisherPhrases hph] at htake
  obtain ⟨hkey, htrimmed⟩ := takeName_eq_some htake
  exact ⟨htrimmed, .key rfl hkey (absurd · (by decide))⟩

theorem place_cases : (∃ g, place? text = some g ∧ FoundFor text .place g) ∨
    place? text = none ∧ phraseFor? text .place = none := by
  refine keyed_cases (by decide) rfl rfl fun name key hfirst => ?_
  obtain ⟨ph, hph, -, m, -, htake⟩ := firstPhrase_eq_some hfirst
  rw [take_placePhrases hph] at htake
  obtain ⟨hname, hkeyed⟩ := takePlace_eq_some htake
  obtain ⟨hkey, htrimmed⟩ := takeName_eq_some hname
  exact ⟨htrimmed, .key rfl hkey fun _ => hkeyed⟩

theorem language_cases : (∃ g, language? text = some g ∧ FoundFor text .language g) ∨
    language? text = none ∧ phraseFor? text .language = none := by
  refine keyed_cases (by decide) rfl rfl fun name key hfirst => ?_
  obtain ⟨hkey, htrimmed⟩ := language_taken hfirst
  exact ⟨htrimmed, .key rfl hkey nofun⟩

/-- The years that a question names, and whether in reverse. -/
theorem years_cases : ((∃ g, (years? text).1 = some g ∧ FoundFor text .year g) ∨
    (years? text).1 = none ∧ phraseFor? text .year = none) ∧ ((years? text).2 = true ↔ Reversed text) := by
  unfold years?
  cases hfirst : firstPhrase yearPhrases text with
  | none =>
    have hphrase : phraseFor? text .year = none := by rw [phraseFor?, hfirst]; rfl
    have hordered : ¬Reversed text := by
      intro ⟨_, _, _, hfound, _⟩
      rw [hfirst] at hfound
      cases hfound
    exact ⟨.inr ⟨rfl, hphrase⟩, iff_of_false Bool.false_ne_true hordered⟩
  | some found =>
    obtain ⟨name, first, last⟩ := found
    have hphrase : phraseFor? text .year = some name := by rw [phraseFor?, hfirst]; rfl
    have hreversed : Reversed text ↔ last < first := by
      constructor
      · intro ⟨_, _, _, hfound, hlt⟩
        rw [hfirst] at hfound
        cases hfound
        exact hlt
      · exact fun hlt => ⟨name, first, last, hfirst, hlt⟩
    obtain ⟨hyear, hyear'⟩ := years_taken hfirst
    have hgives := Gives.years hyear hyear' hfirst
    simp only
    by_cases hlt : last < first
    · rw [min_eq_right (le_of_lt hlt), max_eq_left (le_of_lt hlt)] at hgives
      rw [if_pos hlt, finding?_years (le_of_lt hlt)]
      exact ⟨.inl ⟨_, rfl, rfl, hphrase, hgives⟩, iff_of_true rfl (hreversed.mpr hlt)⟩
    · rw [min_eq_left (not_lt.mp hlt), max_eq_right (not_lt.mp hlt)] at hgives
      rw [if_neg hlt, finding?_years (not_lt.mp hlt)]
      exact ⟨.inl ⟨_, rfl, rfl, hphrase, hgives⟩, iff_of_false Bool.false_ne_true (mt hreversed.mp hlt)⟩

/-- For each field there is a finding from the phrase that is found for it, or no phrase. -/
theorem found?_cases (text : List Char) (hfield : field ∈ families) :
    (∃ g, found? text field = some g ∧ FoundFor text field g) ∨
      found? text field = none ∧ phraseFor? text field = none := by
  simp only [families, List.mem_cons, List.not_mem_nil, or_false] at hfield
  rcases hfield with rfl | rfl | rfl | rfl
  · exact publisher_cases
  · exact years_cases.1
  · exact place_cases
  · exact language_cases

/-- All that is found in a question. -/
def findings (text : List Char) : List Finding := families.filterMap (found? text)

theorem mem_findings {g : Finding} (h : g ∈ findings text) : ∃ field ∈ families, FoundFor text field g := by
  obtain ⟨field, hfield, hg⟩ := List.mem_filterMap.mp h
  rcases found?_cases text hfield with ⟨g', hg', hfound⟩ | ⟨hnone, -⟩
  · rw [hg'] at hg
    cases hg
    exact ⟨field, hfield, hfound⟩
  · rw [hnone] at hg
    cases hg

theorem map_findings (text : List Char) {α : Type} {a : Finding → α} (b : Field → α)
    (hab : ∀ field g, FoundFor text field g → a g = b field) :
    (findings text).map a = (families.filter fun field => (phraseFor? text field).isSome).map b := by
  have hall : ∀ fields : List Field, (∀ field ∈ fields, field ∈ families) → (fields.filterMap (found? text)).map a =
      (fields.filter fun field => (phraseFor? text field).isSome).map b := by
    intro fields hfields
    induction fields with
    | nil => rfl
    | cons field rest ih =>
      obtain ⟨hfield, hrest⟩ := List.forall_mem_cons.mp hfields
      rw [List.filterMap_cons, List.filter_cons]
      rcases found?_cases text hfield with ⟨g, hg, hfound⟩ | ⟨hnone, hphrase⟩
      · simp only [hg, hfound.phrase, Option.isSome_some, if_true, List.map_cons, hab field g hfound, ih hrest]
      · simp only [hnone, hphrase, Option.isSome_none, Bool.false_eq_true, if_false, ih hrest]
  exact hall families fun _ => id

/-! ### Plans -/

/-- What the plan of a question is like. -/
structure WellFormed (question : String) (limit : Option Nat) (p : Plan) : Prop where
  version : p.version = Plan.currentVersion
  queryText : p.queryText = question
  /-- One filter for each field for which a phrase is found, and no other. -/
  fields : p.filters.map (·.field) =
    families.filter fun field => (phraseFor? question.toList field).isSome
  filters : ∀ f ∈ p.filters, Gives question.toList f.field f
  soft : p.softFilters = []
  limit : p.limit = Plan.positive limit
  /-- The phrases are those of the fields that have a filter. -/
  patterns : ∃ es, Entries.get? Plan.Key.patterns p.debug = some (.obj es) ∧
    ∀ key v, Entries.get? key es = some v ↔ ∃ f ∈ p.filters, f.field.name = key ∧
      ∃ name, phraseFor? question.toList f.field = some name ∧ v = .str name
  reversed : Reversed question.toList → Entries.get? Plan.Key.swappedYearBounds p.debug = some (.bool true)
  ordered : ¬Reversed question.toList → Entries.get? Plan.Key.swappedYearBounds p.debug = none
  /-- The statement binds every text as it is. -/
  asked : ∃ s, Statement.ofPlan p = .ok s ∧ ∀ i f key, p.filters[i]? = some f → f.value = .text key →
    s.bound (parameterName i) = .text key
  settled : p.qualifiesForRetry = false

variable {queryText : String} {limit : Option Nat}

theorem filters_eq (queryText : String) (limit : Option Nat) :
    (compile queryText limit).filters = (findings queryText.toList).map (·.filter) := by
  rw [filters_compile]
  rfl

theorem fields_eq : (compile queryText limit).filters.map (·.field) =
    families.filter fun field => (phraseFor? queryText.toList field).isSome := by
  have hfields := map_findings queryText.toList id fun field g hg => hg.filter.field_eq
  rw [List.map_id] at hfields
  rw [filters_eq, List.map_map]
  exact hfields

theorem gives_of_mem {f : Filter} (hf : f ∈ (compile queryText limit).filters) :
    f.field ∈ families ∧ Gives queryText.toList f.field f := by
  rw [filters_eq] at hf
  obtain ⟨g, hg, rfl⟩ := List.mem_map.mp hf
  obtain ⟨field, hfield, hfound⟩ := mem_findings hg
  have heq := hfound.filter.field_eq
  rw [heq]
  exact ⟨hfield, hfound.filter⟩

/-- The debug entries of a plan. -/
theorem debug_compile (queryText : String) (limit : Option Nat) (key : String) :
    Entries.get? key (compile queryText limit).debug =
      if Plan.Key.swappedYearBounds = key ∧ (years? queryText.toList).2 = true then some (.bool true)
      else if Plan.Key.patterns = key then
        some (.object ((findings queryText.toList).map fun g => (g.family, .str g.phrase)))
      else if Plan.Key.backend = key then some (.str backend) else none := by
  have hfirst : Entries.get? key (((((Plan.ofText queryText).withFilters
      ((findings queryText.toList).map (·.filter))).withLimit limit).withDebug Plan.Key.backend
      (.str backend)).withDebug Plan.Key.patterns
      (.object ((findings queryText.toList).map fun g => (g.family, .str g.phrase)))).debug =
      if Plan.Key.patterns = key then
        some (.object ((findings queryText.toList).map fun g => (g.family, .str g.phrase)))
      else if Plan.Key.backend = key then some (.str backend) else none := by
    simp only [Plan.withDebug, Entries.get?_insert]
    rfl
  unfold compile
  simp only
  split
  · rename_i hswapped
    rw [Plan.withDebug, Entries.get?_insert]
    by_cases hkey : Plan.Key.swappedYearBounds = key
    · rw [if_pos hkey, if_pos ⟨hkey, hswapped⟩]
    · rw [if_neg hkey, if_neg fun h => hkey h.1]
      exact hfirst
  · rename_i hswapped
    rw [if_neg fun h => hswapped h.2]
    exact hfirst

/-- The phrases that are recorded, by the names of the fields. -/
theorem get?_patterns (text : List Char) (key : String) (v : Json) :
    Entries.get? key (Entries.sorted ((findings text).map fun g => (g.family, Json.str g.phrase))) = some v ↔
      ∃ g ∈ findings text, g.filter.field.name = key ∧
        ∃ name, phraseFor? text g.filter.field = some name ∧ v = .str name := by
  have hkeys : ((findings text).map fun g => (g.family, Json.str g.phrase)).map (·.1) =
      (families.filter fun field => (phraseFor? text field).isSome).map Field.name := by
    rw [List.map_map]
    exact map_findings text Field.name fun field g hg => hg.family
  have hnodup : (((findings text).map fun g => (g.family, Json.str g.phrase)).map (·.1)).Nodup := by
    rw [hkeys]
    have hnames : (families.map Field.name).Nodup := by decide
    exact hnames.sublist (List.filter_sublist.map _)
  have hentry (g : Finding) (hg : g ∈ findings text) :
      g.family = g.filter.field.name ∧ phraseFor? text g.filter.field = some g.phrase := by
    obtain ⟨field, -, hfound⟩ := mem_findings hg
    rw [hfound.filter.field_eq]
    exact ⟨hfound.family, hfound.phrase⟩
  rw [Entries.get?_sorted key hnodup]
  constructor
  · intro hget
    obtain ⟨g, hg, heq⟩ := List.mem_map.mp (Entries.mem_of_get? hget)
    obtain ⟨hfamily, hphrase⟩ := hentry g hg
    cases heq
    exact ⟨g, hg, hfamily.symm, g.phrase, hphrase, rfl⟩
  · intro ⟨g, hg, hkey, name, hname, hv⟩
    obtain ⟨hfamily, hphrase⟩ := hentry g hg
    obtain rfl := Option.some.inj (hphrase.symm.trans hname)
    refine Entries.get?_of_mem hnodup (List.mem_map.mpr ⟨g, hg, ?_⟩)
    rw [hfamily, hkey, hv]

/-- The statement binds a text that is in normal form as it is. -/
theorem bound_of_gives {p : Plan} (hp : ∀ f ∈ p.filters, Gives text f.field f) {s : Statement}
    (hs : Statement.ofPlan p = .ok s) {i : Nat} {f : Filter} {key : String} (hf : p.filters[i]? = some f)
    (hvalue : f.value = .text key) : s.bound (parameterName i) = .text key := by
  obtain ⟨bs, hbs⟩ := statementOf_ofPlan hs
  have hposition : (f, i) ∈ p.filters.zipIdx := List.mem_zipIdx_iff_getElem?.mpr hf
  obtain ⟨b, hb, hcondition⟩ := exists_of_mem_left hbs.filters hposition
  have hgives := hp f (List.mem_of_getElem? hf)
  generalize f.field = field at hgives
  cases hgives with
  | years => cases hvalue
  | key htarget hkey =>
    cases hvalue
    cases condition?_eq_some.mp hcondition with
    | years _ hop => cases hop
    | year hfield =>
      obtain rfl : field = .year := hfield
      cases htarget
    | equals htarget' hop hvalue' =>
      cases hvalue'
      obtain rfl := Option.some.inj (htarget.symm.trans htarget')
      have hbound := hbs.bound_parameter hb (List.mem_singleton_self _)
      rw [hkey] at hbound
      exact hbound
    | found _ hop => cases hop
    | like _ hop => cases hop
    | oneOf _ hop => cases hop

/-- Whatever is asked, and with whatever limit, the plan has at most one filter for each of the four fields, in their
order, none of them negated and none with a confidence or notes; its texts are in the form in which the catalogue
compares them, and so are bound by its statement as they are; its years are in order and of at most four digits; and
its debug entries name the phrases of those filters, and say whether years were named in reverse. -/
theorem wellFormed_compile (queryText : String) (limit : Option Nat) :
    WellFormed queryText limit (compile queryText limit) where
  version := by
    unfold compile
    simp only
    split <;> rfl
  queryText := by
    unfold compile
    simp only
    split <;> rfl
  fields := fields_eq
  filters := fun f hf => (gives_of_mem hf).2
  soft := by
    unfold compile
    simp only
    split <;> rfl
  limit := limit_compile queryText limit
  patterns := by
    refine ⟨Entries.sorted ((findings queryText.toList).map fun g => (g.family, Json.str g.phrase)), ?_,
      fun key v => ?_⟩
    · rw [debug_compile, if_neg fun h => absurd h.1 (by decide), if_pos rfl]
      rfl
    · rw [get?_patterns, filters_eq]
      simp
  reversed := fun hreversed => by rw [debug_compile, if_pos ⟨rfl, years_cases.2.mpr hreversed⟩]
  ordered := fun hordered => by
    rw [debug_compile, if_neg fun h => hordered (years_cases.2.mp h.2), if_neg (by decide), if_neg (by decide)]
  asked := by
    obtain ⟨s, hs⟩ := translates_compile queryText limit
    exact ⟨s, hs, fun i f key hf hvalue => bound_of_gives (fun f hf => (gives_of_mem hf).2) hs hf hvalue⟩
  settled := by
    have hsubject : (compile queryText limit).hasFilterOn .subject = false := by
      rw [Plan.hasFilterOn, List.any_eq_false]
      intro f hf hsubject
      have hfield := (gives_of_mem hf).1
      rw [beq_iff_eq.mp hsubject] at hfield
      exact absurd hfield (by decide)
    rw [Plan.qualifiesForRetry, hsubject, Bool.and_false]

end Catalogue.Question
