import Catalogue.Plan.Basic

/-! JSON schemas of what is written and what a language model is asked for. In
the schema of a filter every key is required, and those that do not apply are
null, which suits a model held to the schema strictly. -/
namespace Catalogue.Schema

open Json

/-! ### Parts -/

def type (name : String) : Json := object [("type", .str name)]
def types (names : List String) : Json := object [("type", .texts names)]
def arrayOf (items : Json) : Json := object [("type", .str "array"), ("items", items)]

/-- A text out of a list. -/
def choice (names : List String) : Json := object [("type", .str "string"), ("enum", .texts names)]

/-- An object with these properties and no others. -/
def closedObject (properties : List (String × Json)) (required : List String) : Json :=
  object [("type", .str "object"), ("additionalProperties", .bool false),
    ("properties", object properties), ("required", .texts required)]

/-- A bound of a range, or null. -/
def bound (description : String) : Json :=
  object [("description", .str description), ("type", .texts ["integer", "null"])]

/-! ### Documents -/

/-- One filter. -/
def filter : Json :=
  closedObject [
    ("field", choice (Field.all.map Field.name)),
    ("op", choice (Operator.all.map Operator.name)),
    ("value", object [
      ("description", .str "string for equals/contains, array of strings for in, null for range"),
      ("anyOf", .arr [type "string", arrayOf (type "string"), type "null"])]),
    ("start", bound "range lower bound (inclusive)"),
    ("end", bound "range upper bound (inclusive)"),
    ("negate", type "boolean"),
    ("confidence", object [("type", .texts ["number", "null"]), ("minimum", .int 0), ("maximum", .int 1)]),
    ("notes", types ["string", "null"])]
    ["field", "op", "value", "start", "end", "negate", "confidence", "notes"]

/-- A whole plan. -/
def plan : Json :=
  closedObject [
    ("version", object [("type", .str "integer"), ("const", .nat Plan.currentVersion)]),
    ("query_text", type "string"),
    ("filters", arrayOf filter),
    ("soft_filters", arrayOf filter),
    ("limit", object [("type", .texts ["integer", "null"]), ("minimum", .int 1)]),
    ("debug", type "object")]
    ["version", "query_text", "filters"]

/-- A language model's answer. -/
def answer : Json :=
  closedObject [
    ("filters", arrayOf filter),
    ("explanation", types ["string", "null"]),
    ("error", types ["string", "null"])]
    ["filters", "explanation", "error"]

end Catalogue.Schema
