import Catalogue.Plan.Basic

/-! Warnings about a plan. They advise and never keep a plan from being run. -/
namespace Catalogue

open Number

/-- What a warning is about. -/
inductive WarningCode where
  | emptyFilters | lowConfidence | broadDateRange | vagueFilter | zeroResults
  deriving DecidableEq, Repr

def WarningCode.name : WarningCode → String
  | emptyFilters => "empty_filters"
  | lowConfidence => "low_confidence"
  | broadDateRange => "broad_date_range"
  | vagueFilter => "vague_filter"
  | zeroResults => "zero_results"

structure Warning where
  code : WarningCode
  message : String
  /-- The position of the hard filter that the warning is about. -/
  filterIndex : Option Nat
  deriving DecidableEq, Repr

namespace Warning

/-- Confidences below this one are flagged: 0.7. -/
def lowConfidence : Binary64 := Binary64.ofDecimal false 7 (-1)
/-- Ranges that span more years than this are flagged. -/
def broadYears : Nat := 200
/-- Single words shorter than this are flagged. -/
def vagueLength : Nat := 5

/-! ### One filter -/

/-- A filter that was inferred with little confidence. -/
def lowConfidence? (i : Nat) (f : Filter) : Option Warning := do
  let x ← f.confidence
  if Binary64.less x lowConfidence then
    some ⟨.lowConfidence,
      "the " ++ f.field.name ++ " filter was inferred with low confidence (" ++
        String.ofList x.twoPlaces ++ "); check " ++ f.valueText, some i⟩
  else none

/-- A range of very many years. -/
def broadRange? (i : Nat) (f : Filter) : Option Warning := do
  let (first, last) ← f.bounds?
  if (broadYears : Int) < last - first then
    some ⟨.broadDateRange, "the date range " ++ f.valueText ++ " spans more than " ++
      toString broadYears ++ " years", some i⟩
  else none

/-- A subject or title asked for by one short word. -/
def vague? (i : Nat) (f : Filter) : Option Warning := do
  let s ← f.text?
  if f.field = .subject || f.field = .title then
    match Text.words s.toList with
    | [word] =>
      if word.length < vagueLength then
        some ⟨.vagueFilter, "the " ++ f.field.name ++ " term `" ++ String.ofList word ++
          "` is very short and may match too broadly", some i⟩
      else none
    | _ => none
  else none

/-- The warnings about one filter. -/
def ofFilter (i : Nat) (f : Filter) : List Warning :=
  [lowConfidence? i f, broadRange? i f, vague? i f].filterMap id

/-! ### A plan -/

/-- The warnings about filters from position `i` on. -/
def ofFilters (i : Nat) : List Filter → List Warning
  | [] => []
  | f :: rest => ofFilter i f ++ ofFilters (i + 1) rest

/-- A plan without filters. -/
def noFilters : Warning :=
  ⟨.emptyFilters, "no filters were recognized; every record in the index matches", none⟩

/-- A plan without results. -/
def noResults : Warning :=
  ⟨.zeroResults, "no records matched; try removing a filter or widening the date range", none⟩

/-- The warnings that follow from a plan alone. -/
def ofPlan (p : Plan) : List Warning :=
  if p.filters.isEmpty then [noFilters] else ofFilters 0 p.filters

/-- A warning as JSON. -/
def toJson (w : Warning) : Json :=
  .obj ([("code", .str w.code.name), ("message", .str w.message)] ++
    match w.filterIndex with
    | some i => [("filter_index", .nat i)]
    | none => [])

end Warning
end Catalogue
