import Catalogue.Filter.Basic
import Catalogue.Json.Decode

/-! Filters as JSON: `field`, `op`, then `value` or `start` and `end`, then
`negate`, `confidence` and `notes`. Reading goes through the rules by which
filters are made. -/
namespace Catalogue

open Json Number

/-- The value of a filter as it may be written: a whole number stands for its decimal text. -/
inductive WrittenValue where
  | text (s : String)
  | set (values : List String)
  | integer (n : Int)
  deriving DecidableEq, Repr

/-- A filter as it is written, before any rule is checked. -/
structure WrittenFilter where
  field : String
  op : String
  value : Option WrittenValue
  first : Option Int
  last : Option Int
  negate : Bool
  confidence : Option Binary64
  notes : Option String
  deriving DecidableEq, Repr

namespace WrittenFilter

/-- The value of a filter, from a value and bounds of which only some may be there. -/
def valueFor (field : Field) (op : Operator) (w : WrittenFilter) : Except FilterError FilterValue :=
  match op, w.value, w.first, w.last with
  | .range, _, some first, some last => .ok (.range first last)
  | .range, _, _, _ => .error (.wrongShape field op .bounds)
  | .oneOf, some (.set values), _, _ => .ok (.set values)
  | .oneOf, some (.text s), _, _ => .ok (.set [s])
  | _, some (.text s), _, _ => .ok (.text s)
  | _, some (.integer n), _, _ => .ok (.text (String.ofList (intText n)))
  | _, _, _, _ => .error (.wrongShape field op op.shape)

/-- The filter that is written. -/
def toFilter (w : WrittenFilter) : Except FilterError Filter := do
  let field ← Field.parse w.field
  let op ← Operator.parse w.op
  let value ← valueFor field op w
  let f ← Filter.make? field op value
  let f := f.negated w.negate
  let f ← match w.confidence with
    | some x => f.withConfidence? x
    | none => pure f
  return { f with notes := w.notes }

/-! ### Reading -/

/-- A filter's value: a string, a list of strings or an integer of 64 bits. -/
def readValue : Reader WrittenValue := fun src d => do
  match ← readAny src d with
  | .str s => return .text s
  | .int n =>
    if (Json.int n).int64?.isSome then return .integer n else throw (.content (.noAlternative "WireValue"))
  | .arr items =>
    match items.mapM Json.str? with
    | some values => return .set values
    | none => throw (.content (.noAlternative "WireValue"))
  | _ => throw (.content (.noAlternative "WireValue"))

/-- A bound of a range. -/
def readBound : Reader Int := readInt "i32" int32

/-- Reads one field of a written filter. -/
def readField (w : WrittenFilter) (name : String) (src : Source) (d : Document) :
    Except DecodeError WrittenFilter :=
  match name with
  | "field" => return { w with field := ← readString src d }
  | "op" => return { w with op := ← readString src d }
  | "value" => return { w with value := ← readOption readValue src d }
  | "start" => return { w with first := ← readOption readBound src d }
  | "end" => return { w with last := ← readOption readBound src d }
  | "negate" => return { w with negate := ← readBool src d }
  | "confidence" => return { w with confidence := ← readOption readFloat src d }
  | _ => return { w with notes := ← readOption readString src d }

def shape : RecordShape WrittenFilter where
  name := "FilterWire"
  fields := ["field", "op", "value", "start", "end", "negate", "confidence", "notes"]
  required := ["field", "op"]
  empty := ⟨"", "", none, none, none, false, none, none⟩
  readField := readField

end WrittenFilter

namespace Filter

/-- A filter, checked by the rules. -/
def read : Reader Filter := fun src d => do
  let w ← WrittenFilter.shape.read src d
  match w.toFilter with
  | .ok f => return f
  | .error e => throw (.content (.refused e.message))

/-! ### Writing -/

/-- The entries that a filter's value is written as. -/
def valueEntries : FilterValue → List (String × Json)
  | .text s => [("value", .str s)]
  | .range first last => [("start", .int first), ("end", .int last)]
  | .set values => [("value", .texts values)]

/-- The filter as JSON, in the order in which fields are written. -/
def toJson (f : Filter) : Json :=
  .obj ([("field", .str f.field.name), ("op", .str f.op.name)] ++ valueEntries f.value ++
    [("negate", .bool f.negate), ("confidence", .ofFloat? f.confidence), ("notes", .ofText? f.notes)])

end Filter
end Catalogue
