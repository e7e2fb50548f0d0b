import Catalogue.Plan.Schema
import Catalogue.Proofs.Number.Rounding
import Catalogue.Proofs.Plan.Canonical

/-! Schemas and what is written. `departures` reads a JSON schema as such schemas are meant and lists
every place where a value is not as the schema asks. A filter is written as the schema of filters asks
but for required keys that do not apply to it: they are left out, where the schema has them null
(`departures_filter`). The JSON of a plan departs from the schema of plans where its filters do and
nowhere else (`departures_plan`). -/
namespace Catalogue

open Json Number

namespace Number.Binary64

/-! ### Values of numbers -/

/-- The value of a finite number. -/
def toRat (x : Binary64) : ℚ := (if x.negative then -1 else 1) * (x.mantissa * 2 ^ x.exponent)

theorem toRat_of_zero {x : Binary64} (h : x.magnitude = 0) : x.toRat = 0 := by
  have hmantissa : x.mantissa = 0 := by
    unfold mantissa
    rw [h, if_pos (by decide)]
  rw [toRat, hmantissa, Nat.cast_zero, zero_mul, mul_zero]

/-- Numbers whose bits are not above those of 1 are not above 1 in magnitude. -/
theorem mantissa_mul_le_one {x : Binary64} (hzero : x.magnitude ≠ 0) (h : x.magnitude ≤ 1023 * hiddenBit) :
    (x.mantissa : ℚ) * 2 ^ x.exponent ≤ 1 := by
  have hscaled (k : Nat) (hm : x.mantissa ≤ 2 ^ k) (he : x.exponent ≤ -k) :
      (x.mantissa : ℚ) * 2 ^ x.exponent ≤ 1 := by
    calc (x.mantissa : ℚ) * 2 ^ x.exponent ≤ 2 ^ (k : Int) * 2 ^ (-k : Int) := by
          gcongr
          · rw [zpow_natCast]
            exact_mod_cast hm
          · norm_num
      _ = 1 := by rw [← zpow_add₀ (by norm_num), add_neg_cancel, zpow_zero]
  obtain ⟨hparts, -, hbits⟩ := bits_of_parts hzero
  simp only [hiddenBit] at h hparts hbits
  by_cases hlast : x.exponent = -52
  · exact hscaled 52 (by omega) (by omega)
  · exact hscaled 53 (by omega) (by omega)

/-- A probability lies between 0 and 1. -/
theorem toRat_of_probability {x : Binary64} (h : Filter.IsProbability x) : 0 ≤ x.toRat ∧ x.toRat ≤ 1 := by
  by_cases hzero : x.magnitude = 0
  · rw [toRat_of_zero hzero]
    exact ⟨le_rfl, zero_le_one⟩
  have hlow : zero.orderKey = 0 := by decide
  have hbetween := h.2
  simp only [between, Bool.and_eq_true, decide_eq_true_eq, hlow, Filter.orderKey_one] at hbetween
  obtain ⟨⟨-, hpositive⟩, hbound⟩ := hbetween
  unfold orderKey at hpositive hbound
  by_cases hnegative : x.negative
  · rw [if_pos hnegative] at hpositive
    omega
  · rw [if_neg hnegative] at hbound
    rw [toRat, if_neg hnegative, one_mul]
    exact ⟨by positivity, mantissa_mul_le_one hzero (Int.ofNat_le.mp hbound)⟩

end Number.Binary64

namespace Schema

/-! ### What a schema asks -/

/-- A step from a value to one of its parts. -/
inductive Step where
  | key (name : String)
  | item (i : Nat)
  deriving DecidableEq, Repr

/-- What is wrong with a value. -/
inductive Problem where
  /-- It is of another type. -/
  | type
  /-- It is not one of the values that are listed. -/
  | notListed
  /-- It is a number beyond a bound. -/
  | outOfBounds
  /-- It is an object without a key that is required. -/
  | missing (key : String)
  /-- It is an object with a key that is not among its properties. -/
  | unknown (key : String)
  /-- It is as none of the alternatives asks. -/
  | noAlternative
  deriving DecidableEq, Repr

/-- What is wrong with a part of a value. -/
structure Departure where
  path : List Step
  problem : Problem
  deriving DecidableEq, Repr

/-- The departure of a part, seen from the value that has the part. -/
def Departure.under (step : Step) (d : Departure) : Departure := { d with path := step :: d.path }

/-- The problem of the value itself, unless what is asked for holds. -/
def demand (problem : Problem) (holds : Bool) : List Departure := if holds then [] else [⟨[], problem⟩]

/-- The value of a number. -/
def number? : Json → Option ℚ
  | .int n => some n
  | .float x => if x.isFinite then some x.toRat else none
  | _ => none

/-- The entries of an object. -/
def entries? : Json → Option (Entries Json)
  | .obj entries => some entries
  | _ => none

/-- Whether a value is of the type with a name. A number without a fraction is an integer. -/
def hasType (v : Json) (name : String) : Bool :=
  match name with
  | "null" => v.isNull
  | "boolean" => v.bool?.isSome
  | "string" => v.str?.isSome
  | "number" => (number? v).isSome
  | "integer" => (number? v).any (·.isInt)
  | "array" => v.arr?.isSome
  | "object" => (entries? v).isSome
  | _ => false

/-- Whether two values without parts are equal, numbers by their values. -/
def same : Json → Json → Bool
  | .null, .null => true
  | .bool a, .bool b => a == b
  | .str s, .str t => s == t
  | v, w => (number? v).any fun x => (number? w).any (x == ·)

/-- What a keyword of a schema asks of a value itself. Values that it is not about satisfy it, and so does
every value if it is not one of these. -/
def check (schema : Entries Json) (v : Json) (keyword : String) (argument : Json) : List Departure :=
  match keyword, argument with
  | "type", .str name => demand .type (hasType v name)
  | "type", .arr names => demand .type (names.any fun name => name.str?.any (hasType v))
  | "enum", .arr listed => demand .notListed (listed.any (same v))
  | "const", w => demand .notListed (same v w)
  | "minimum", w => demand .outOfBounds ((number? v).all fun x => (number? w).all (· ≤ x))
  | "maximum", w => demand .outOfBounds ((number? v).all fun x => (number? w).all (x ≤ ·))
  | "required", .arr names =>
    match entries? v with
    | some es => ((names.filterMap Json.str?).filter fun k => (Entries.get? k es).isNone).map (⟨[], .missing ·⟩)
    | none => []
  | "additionalProperties", .bool false =>
    match entries? v with
    | some es =>
      let declared := ((Entries.get? "properties" schema).bind entries?).getD []
      ((es.map (·.1)).filter fun k => (Entries.get? k declared).isNone).map (⟨[], .unknown ·⟩)
    | none => []
  | _, _ => []

mutual

/-- Where a value is not as a schema asks. -/
def departures (schema v : Json) : List Departure :=
  match schema with
  | .obj keywords => fromKeywords keywords v keywords
  | _ => []
termination_by structural schema

/-- Where a value is not as some keywords of a schema ask. -/
def fromKeywords (schema : Entries Json) (v : Json) (keywords : Entries Json) : List Departure :=
  match keywords with
  | [] => []
  | (keyword, argument) :: rest =>
    check schema v keyword argument ++
      (match keyword, argument with
      | "items", items =>
        (v.arr?.getD []).zipIdx.flatMap fun (w, i) => (departures items w).map (.under (.item i))
      | "properties", .obj properties => fromProperties v properties
      | "anyOf", .arr alternatives => demand .noAlternative (anyAccepts v alternatives)
      | _, _ => []) ++
      fromKeywords schema v rest
termination_by structural keywords

/-- Where the properties that an object has are not as their schemas ask. -/
def fromProperties (v : Json) (properties : Entries Json) : List Departure :=
  match properties with
  | [] => []
  | (name, property) :: rest =>
    ((v.get? name).toList.flatMap fun w => (departures property w).map (.under (.key name))) ++
      fromProperties v rest
termination_by structural properties

/-- Whether a value is as one of some schemas asks. -/
def anyAccepts (v : Json) (alternatives : List Json) : Bool :=
  match alternatives with
  | [] => false
  | alternative :: rest => (departures alternative v).isEmpty || anyAccepts v rest
termination_by structural alternatives

end

attribute [simp] departures fromKeywords check

/-! ### Schemas from parts -/

/-- An object is its entries in order. -/
theorem object_of_perm {es fs : Entries Json} (hp : es.Perm fs) (h : Entries.Ascending fs) : object es = .obj fs := by
  have hn : (es.map (·.1)).Nodup := (hp.map _).nodup_iff.mpr h.nodup
  rw [object, Entries.sorted_of_perm hn hp, Entries.sorted_of_ascending h]

/-- Two entries in the wrong order change places. -/
theorem object_pair {j k : String} (h : j < k) (v w : Json) : object [(k, w), (j, v)] = .obj [(j, v), (k, w)] :=
  object_of_perm (.swap ..) (List.pairwise_pair.mpr h)

variable (v : Json)

theorem departures_type (name : String) : departures (type name) v = demand .type (hasType v name) := by
  have hobject : type name = .obj [("type", .str name)] := rfl
  simp [hobject]

theorem departures_types (names : List String) :
    departures (types names) v = demand .type (names.any (hasType v)) := by
  have hobject : types names = .obj [("type", .texts names)] := rfl
  simp [hobject, texts, List.any_map, Function.comp_def, Json.str?]

theorem departures_choice (names : List String) :
    departures (choice names) v =
      demand .notListed (names.any fun name => same v (.str name)) ++ demand .type (hasType v "string") := by
  have hobject : choice names = .obj [("enum", .texts names), ("type", .str "string")] := object_pair (by decide) _ _
  simp [hobject, texts, List.any_map, Function.comp_def]

theorem departures_bound (description : String) :
    departures (bound description) v = demand .type (hasType v "integer" || hasType v "null") := by
  have hobject : bound description =
      .obj [("description", .str description), ("type", .texts ["integer", "null"])] :=
    object_of_perm (.refl _) (by simp only [Entries.Ascending, List.pairwise_cons, List.forall_mem_cons]; decide)
  simp [hobject, texts, Json.str?]

theorem departures_arrayOf (items : Json) (vs : List Json) :
    departures (arrayOf items) (.arr vs) =
      vs.zipIdx.flatMap fun (w, i) => (departures items w).map (.under (.item i)) := by
  have hobject : arrayOf items = .obj [("items", items), ("type", .str "array")] := object_pair (by decide) _ _
  simp [hobject, Json.arr?, hasType, demand]

theorem fromProperties_eq (properties : Entries Json) :
    fromProperties v properties = properties.flatMap fun property =>
      (v.get? property.1).toList.flatMap fun w => (departures property.2 w).map (.under (.key property.1)) := by
  induction properties with
  | nil => rfl
  | cons property rest ih =>
    obtain ⟨name, property⟩ := property
    rw [fromProperties, ih, List.flatMap_cons]

/-- What is wrong with an object that may have some properties and no others, and must have some of them. -/
theorem departures_closedObject {properties : Entries Json} (hn : (properties.map (·.1)).Nodup)
    (required : List String) (es : Entries Json) :
    departures (closedObject properties required) (.obj es) =
      ((es.map (·.1)).filter fun k => (Entries.get? k properties).isNone).map (⟨[], .unknown ·⟩) ++
        fromProperties (.obj es) (Entries.sorted properties) ++
        (required.filter fun k => (Entries.get? k es).isNone).map (⟨[], .missing ·⟩) := by
  have hobject : closedObject properties required =
      .obj [("additionalProperties", .bool false), ("properties", object properties),
        ("required", .texts required), ("type", .str "object")] :=
    object_of_perm (List.perm_append_singleton _ [_, _, _]).symm
      (by simp only [Entries.Ascending, List.pairwise_cons, List.forall_mem_cons]; decide)
  have hdeclared (k : String) := Entries.get?_sorted k hn
  have hnames : required.filterMap (Json.str? ∘ Json.str) = required := List.filterMap_some
  simp [hobject, object, texts, entries?, Entries.get?_cons, hdeclared, hasType,
    demand, Json.str?, hnames]

theorem fromProperties_eq_nil {properties : Entries Json}
    (h : ∀ property ∈ properties, ∀ w ∈ v.get? property.1, departures property.2 w = []) :
    fromProperties v properties = [] := by
  rw [fromProperties_eq, List.flatMap_eq_nil_iff]
  intro property hproperty
  rw [List.flatMap_eq_nil_iff]
  intro w hw
  rw [h property hproperty w (Option.mem_toList.mp hw), List.map_nil]

theorem anyAccepts_eq (alternatives : List Json) :
    anyAccepts v alternatives = alternatives.any fun alternative => (departures alternative v).isEmpty := by
  induction alternatives with
  | nil => rfl
  | cons alternative rest ih => rw [anyAccepts, ih, List.any_cons]

theorem isInt_int (n : Int) : hasType (.int n) "integer" := by
  simp [hasType, number?, Rat.isInt]

end Schema

/-! ### Filters -/

/-- The required keys of a filter that are left out because they do not apply to its operator. -/
def Operator.unstated : Operator → List String
  | .range => ["value"]
  | .equals | .contains | .oneOf => ["start", "end"]

namespace Filter

open Schema

/-- How the JSON of a filter departs from the schema of filters. -/
def lacks (f : Filter) : List Departure := f.op.unstated.map (⟨[], .missing ·⟩)

variable (f : Filter)

theorem get?_field : f.toJson.get? "field" = some (.str f.field.name) := rfl

theorem get?_op : f.toJson.get? "op" = some (.str f.op.name) := rfl

theorem get?_negate : f.toJson.get? "negate" = some (.bool f.negate) := by
  obtain ⟨field, op, value, negate, confidence, notes⟩ := f
  cases value <;> rfl

theorem get?_confidence : f.toJson.get? "confidence" = some (.ofFloat? f.confidence) := by
  obtain ⟨field, op, value, negate, confidence, notes⟩ := f
  cases value <;> rfl

theorem get?_notes : f.toJson.get? "notes" = some (.ofText? f.notes) := by
  obtain ⟨field, op, value, negate, confidence, notes⟩ := f
  cases value <;> rfl

theorem accepts_of_mem {v alternative : Json} {alternatives : List Json} (h : alternative ∈ alternatives)
    (hnil : departures alternative v = []) : anyAccepts v alternatives := by
  rw [anyAccepts_eq, List.any_eq_true]
  exact ⟨alternative, h, List.isEmpty_iff.mpr hnil⟩

/-- A text or a list of texts stands under the key of the value. -/
theorem departures_value : ∀ w ∈ f.toJson.get? "value", departures (object [
    ("description", .str "string for equals/contains, array of strings for in, null for range"),
    ("anyOf", .arr [type "string", arrayOf (type "string"), type "null"])]) w = [] := by
  intro w hw
  have haccepted : anyAccepts w [type "string", arrayOf (type "string"), type "null"] := by
    obtain ⟨field, op, value, negate, confidence, notes⟩ := f
    cases value with
    | text s =>
      cases hw
      exact accepts_of_mem (List.mem_cons_self ..) (departures_type ..)
    | range first last => cases hw
    | set values =>
      cases hw
      refine accepts_of_mem (List.mem_cons_of_mem _ (List.mem_cons_self ..)) ?_
      refine (departures_arrayOf _ (values.map Json.str)).trans (List.flatMap_eq_nil_iff.mpr ?_)
      rintro ⟨w, i⟩ hi
      obtain ⟨s, -, rfl⟩ := List.mem_map.mp (List.fst_mem_of_mem_zipIdx hi)
      exact congrArg (List.map _) (departures_type (.str s) "string")
  rw [object_pair (by decide)]
  simp [haccepted, demand]

theorem departures_start :
    ∀ w ∈ f.toJson.get? "start", departures (bound "range lower bound (inclusive)") w = [] := by
  intro w hw
  obtain ⟨field, op, value, negate, confidence, notes⟩ := f
  cases value <;> cases hw
  rw [departures_bound, isInt_int]
  rfl

theorem departures_end :
    ∀ w ∈ f.toJson.get? "end", departures (bound "range upper bound (inclusive)") w = [] := by
  intro w hw
  obtain ⟨field, op, value, negate, confidence, notes⟩ := f
  cases value <;> cases hw
  rw [departures_bound, isInt_int]
  rfl

/-- A confidence is a number within the bounds, or null. -/
theorem departures_confidence {confidence : Option Binary64} (h : ∀ x ∈ confidence, IsProbability x) :
    departures (object [("type", .texts ["number", "null"]), ("minimum", .int 0), ("maximum", .int 1)])
      (.ofFloat? confidence) = [] := by
  have hobject (types : Json) : object [("type", types), ("minimum", .int 0), ("maximum", .int 1)] =
      .obj [("maximum", .int 1), ("minimum", .int 0), ("type", types)] :=
    object_of_perm (List.reverse_perm _).symm
      (by simp only [Entries.Ascending, List.pairwise_cons, List.forall_mem_cons]; decide)
  rw [hobject]
  cases confidence with
  | none => rfl
  | some x =>
    have hx := h x rfl
    obtain ⟨hlow, hhigh⟩ := Binary64.toRat_of_probability hx
    simp [texts, Json.str?, Json.ofFloat?, number?, hasType, demand, hx.1, hlow,
      hhigh]

theorem departures_field :
    departures (choice (Field.all.map Field.name)) (.str f.field.name) = [] := by
  rw [departures_choice]
  cases f.field <;> rfl

theorem departures_op : departures (choice (Operator.all.map Operator.name)) (.str f.op.name) = [] := by
  rw [departures_choice]
  cases f.op <;> rfl

theorem departures_notes (notes : Option String) : departures (types ["string", "null"]) (.ofText? notes) = [] := by
  rw [departures_types]
  cases notes <;> rfl

/-- Every filter that keeps the rules is written as the schema of filters asks, but that the required keys
that do not apply to its operator are left out. -/
theorem departures_filter {f : Filter} (h : f.Valid) : departures Schema.filter f.toJson = f.lacks := by
  rw [Schema.filter]
  refine (departures_closedObject (by simp) _ f.entries).trans ?_
  rw [fromProperties_eq_nil]
  · obtain ⟨field, op, value, negate, confidence, notes⟩ := f
    have hvalue := h.value
    cases op <;> cases value <;> first | exact hvalue.elim | rfl
  · intro property hproperty
    replace hproperty := Entries.mem_of_mem_sorted hproperty
    revert property
    simp only [List.forall_mem_cons]
    have hone {key : String} {schema v : Json} (hget : f.toJson.get? key = some v) (hv : departures schema v = []) :
        ∀ w ∈ f.toJson.get? key, departures schema w = [] := by
      rw [hget]
      rintro w ⟨⟩
      exact hv
    exact ⟨hone f.get?_field f.departures_field, hone f.get?_op f.departures_op, f.departures_value,
      f.departures_start, f.departures_end, hone f.get?_negate (departures_type ..),
      hone f.get?_confidence (departures_confidence h.confidence), hone f.get?_notes (departures_notes _),
      List.forall_mem_nil _⟩

end Filter

namespace Plan

open Schema

/-! ### Plans -/

/-- How filters under a key of a plan depart from the schema of filters. -/
def lacksUnder (key : String) (filters : List Filter) : List Departure :=
  filters.zipIdx.flatMap fun (f, i) => f.lacks.map fun d => (d.under (.item i)).under (.key key)

theorem departures_filters (key : String) {filters : List Filter} (h : ∀ f ∈ filters, f.Valid) :
    (departures (arrayOf Schema.filter) (.arr (filters.map Filter.toJson))).map (.under (.key key)) =
      lacksUnder key filters := by
  rw [departures_arrayOf, List.zipIdx_map, List.flatMap_map, List.map_flatMap, lacksUnder]
  refine List.flatMap_congr fun (f, i) hi => ?_
  simp only [Prod.map, id, Filter.departures_filter (h f (List.fst_mem_of_mem_zipIdx hi)), List.map_map]
  rfl

/-- A limit is a positive number, or null. -/
theorem departures_limit {limit : Option Nat} (h : limit ≠ some 0) :
    departures (object [("type", .texts ["integer", "null"]), ("minimum", .int 1)]) (limitJson limit) = [] := by
  rw [object_pair (by decide)]
  cases limit with
  | none => rfl
  | some n =>
    have hpositive : 1 ≤ n := Nat.one_le_iff_ne_zero.mpr fun hn => h (congrArg some hn)
    have hinteger : hasType (.int n) "integer" := isInt_int n
    simp [texts, Json.str?, limitJson, nat, number?, demand, hpositive, hinteger]

theorem departures_version :
    departures (object [("type", .str "integer"), ("const", .nat currentVersion)]) (.nat currentVersion) = [] := by
  have hinteger : hasType (.int 1) "integer" := isInt_int 1
  rw [object_pair (by decide)]
  simp [nat, currentVersion, same, number?, demand, hinteger]

/-- The JSON of a plan of the current version without a limit of zero departs from the schema of plans where
its filters depart from theirs, and nowhere else. -/
theorem departures_plan {p : Plan} (hversion : p.version = currentVersion) (hlimit : p.limit ≠ some 0)
    (hfilters : ∀ f ∈ p.filters, f.Valid) (hsoft : ∀ f ∈ p.softFilters, f.Valid) :
    departures Schema.plan p.toJson = lacksUnder "filters" p.filters ++ lacksUnder "soft_filters" p.softFilters := by
  have hsorted (version text filters soft limit debug : Json) :
      Entries.sorted [("version", version), ("query_text", text), ("filters", filters), ("soft_filters", soft),
        ("limit", limit), ("debug", debug)] =
      [("debug", debug), ("filters", filters), ("limit", limit), ("query_text", text), ("soft_filters", soft),
        ("version", version)] := by
    refine obj.inj (object_of_perm ?_ ?_)
    · have hmiddle := @List.perm_middle _ ("filters", filters) [("limit", limit), ("soft_filters", soft)]
        [("query_text", text), ("version", version)]
      exact (List.reverse_perm _).symm.trans (.cons _ (hmiddle.trans (.cons _ (.cons _ (.swap ..)))))
    · simp only [Entries.Ascending, List.pairwise_cons, List.forall_mem_cons]
      decide
  have hdebug : departures (type "object") (.obj p.debug) = [] := departures_type ..
  have htext : departures (type "string") (.str p.queryText) = [] := departures_type ..
  rw [toJson_eq, Schema.plan, hversion]
  refine (departures_closedObject (by simp) _ _).trans ?_
  rw [hsorted, fromProperties_eq]
  simp [Json.get?, Entries.get?_cons, hdebug, htext, departures_limit hlimit, departures_version,
    departures_filters _ hfilters, departures_filters _ hsoft]

end Plan

namespace Schema

/-! ### Encodings -/

/-- A filter that keeps the rules has every property that its schema asks for, each as its schema asks, and no
others, but for the required keys that do not apply to its operator; a plan of the current version without a
limit of zero departs from its schema just where its filters do. -/
theorem encoding_departs :
    (∀ f : Filter, f.Valid → departures Schema.filter f.toJson = f.lacks) ∧
      ∀ p : Plan, p.version = Plan.currentVersion → p.limit ≠ some 0 → (∀ f ∈ p.filters, f.Valid) →
        (∀ f ∈ p.softFilters, f.Valid) → departures Schema.plan p.toJson =
          Plan.lacksUnder "filters" p.filters ++ Plan.lacksUnder "soft_filters" p.softFilters :=
  ⟨fun _ => Filter.departures_filter, fun _ => Plan.departures_plan⟩

/-- `place equals venice`. -/
def venice : Filter := ⟨.place, .equals, .text "venice", false, none, none⟩

theorem valid_venice : venice.Valid :=
  Filter.valid_make (show Filter.make? .place .equals (.text "venice") = .ok venice by rfl)

/-- `year range 1500-1550`. -/
def century : Filter := ⟨.year, .range, .range 1500 1550, false, none, none⟩

theorem valid_century : century.Valid :=
  Filter.valid_make (show Filter.make? .year .range (.range 1500 1550) = .ok century by rfl)

/-- In a plan with a range and a text for filters, the range lacks its value and the text its bounds. -/
theorem encoding_departs_venice : departures Schema.filter century.toJson = [⟨[], .missing "value"⟩] ∧
    departures Schema.plan ((Plan.ofText "q").withFilters [century, venice]).toJson =
      [⟨[.key "filters", .item 0], .missing "value"⟩, ⟨[.key "filters", .item 1], .missing "start"⟩,
        ⟨[.key "filters", .item 1], .missing "end"⟩] := by
  have hvalid : ∀ f ∈ [century, venice], f.Valid :=
    List.forall_mem_cons.mpr ⟨valid_century, List.forall_mem_singleton.mpr valid_venice⟩
  exact ⟨encoding_departs.1 century valid_century,
    encoding_departs.2 _ rfl nofun hvalid (List.forall_mem_nil _)⟩

/-- A filter that keeps the rules and is not written as its schema asks. -/
theorem venice_lacks_bounds : venice.Valid ∧
    departures Schema.filter venice.toJson = [⟨[], .missing "start"⟩, ⟨[], .missing "end"⟩] :=
  ⟨valid_venice, Filter.departures_filter valid_venice⟩

end Schema
end Catalogue
