import Catalogue.Filter.Codec
import Catalogue.Json.Printer
import Catalogue.Digest.Sha256

/-! Query plans: what every compiler produces and everything after it consumes.
All hard filters of a plan must hold; soft filters are carried along. A plan is
written as JSON, and its hash is the digest of its canonical JSON. -/
namespace Catalogue

open Json Number

/-- A validated query. -/
structure Plan where
  /-- The version of the format; plans made here have the current one. -/
  version : Nat
  queryText : String
  /-- Every one of them must hold. -/
  filters : List Filter
  /-- Never enforced. -/
  softFilters : List Filter
  /-- The greatest number of results; none and zero both mean all. -/
  limit : Option Nat
  /-- Where the plan comes from, keys ascending. -/
  debug : Entries Json

namespace Plan

/-- The version of the plan format that is written and understood here. -/
def currentVersion : Nat := 1

/-! ### Keys of the debug entries -/

namespace Key
def backend := "backend"
def patterns := "patterns"
def model := "model"
def cacheHit := "cache_hit"
def retryAttempt := "retry_attempt"
def retryHintCount := "retry_hint_count"
def retryOf := "retry_of"
def explanation := "explanation"
def swappedYearBounds := "swapped_year_bounds"
end Key

/-! ### Building -/

/-- The plan of a question without any filter. -/
def ofText (queryText : String) : Plan := ⟨currentVersion, queryText, [], [], none, []⟩

def withFilters (p : Plan) (filters : List Filter) : Plan := { p with filters := filters }
def withSoftFilters (p : Plan) (filters : List Filter) : Plan := { p with softFilters := filters }

/-- A limit, unless it is zero. -/
def positive (limit : Option Nat) : Option Nat := limit.filter (0 < ·)

def withLimit (p : Plan) (limit : Option Nat) : Plan := { p with limit := positive limit }

def withDebug (p : Plan) (key : String) (value : Json) : Plan :=
  { p with debug := Entries.insert key value p.debug }

/-! ### Questions about a plan -/

/-- The compiler that made the plan. -/
def backend? (p : Plan) : Option String := (Entries.get? Key.backend p.debug).bind Json.str?

/-- Whether the plan comes from a retry. -/
def retryAttempt (p : Plan) : Bool := ((Entries.get? Key.retryAttempt p.debug).bind Json.bool?).getD false

/-- Whether some hard filter is on the field. -/
def hasFilterOn (p : Plan) (field : Field) : Bool := p.filters.any (·.field == field)

/-- Whether a plan without results is worth a retry: it asks for a subject and is no retry itself. -/
def qualifiesForRetry (p : Plan) : Bool := !p.retryAttempt && p.hasFilterOn .subject

/-- The fields that some hard filter is on. -/
def fields (p : Plan) : List Field := Field.all.filter p.hasFilterOn

/-! ### Writing -/

/-- The plan as JSON, in the order in which fields are written. -/
def toJson (p : Plan) : Json :=
  .obj [("version", .nat p.version), ("query_text", .str p.queryText),
    ("filters", .arr (p.filters.map Filter.toJson)),
    ("soft_filters", .arr (p.softFilters.map Filter.toJson)),
    ("limit", match p.limit with
      | some n => .nat n
      | none => .null),
    ("debug", .obj p.debug)]

def compact (p : Plan) : String := p.toJson.compact
def pretty (p : Plan) : String := p.toJson.pretty
def canonical (p : Plan) : String := p.toJson.canonical

/-- The digest of the plan's canonical JSON. -/
def hash (p : Plan) : String := Digest.sha256Hex p.canonical

/-! ### Reading -/

/-- Reads one field of a plan. A limit of zero is none. -/
def readField (p : Plan) (name : String) (src : Source) (doc : Document) : Except DecodeError Plan :=
  match name with
  | "version" => return { p with version := (← readInt "u32" nat32 src doc).toNat }
  | "query_text" => return { p with queryText := ← readString src doc }
  | "filters" => return { p with filters := ← readList Filter.read src doc }
  | "soft_filters" => return { p with softFilters := ← readList Filter.read src doc }
  | "limit" => do
    let limit ← readOption (readInt "usize" nat64) src doc
    return { p with limit := positive (limit.map Int.toNat) }
  | _ => return { p with debug := ← readEntries src doc }

def shape : RecordShape Plan where
  name := "QueryPlan"
  fields := ["version", "query_text", "filters", "soft_filters", "limit", "debug"]
  required := ["query_text"]
  empty := ofText ""
  readField := readField

/-- A plan of any version. -/
def read : Reader Plan := shape.read

/-- The refusal of a plan of another version. -/
def versionMessage (n : Nat) : String :=
  "unsupported plan version " ++ toString n ++ " (expected " ++ toString currentVersion ++ ")"

/-- The plan of a JSON text. Versions other than the current one are refused. -/
def parse (s : String) : Except DecodeError Plan := do
  let p ← Json.decode read s
  if p.version ≠ currentVersion then throw (.content (.refused (versionMessage p.version)))
  return p

end Plan
end Catalogue
