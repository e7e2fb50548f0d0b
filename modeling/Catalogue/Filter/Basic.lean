import Catalogue.Number.Integer
import Catalogue.Text.Case
import Catalogue.Text.Space

/-! Filters: one condition `field operator value` of a query plan. A filter is
made by `Filter.make?`, which checks that the value has the shape its operator
asks for; `Filter.Valid` is what every filter so made satisfies. -/
namespace Catalogue

open Number (Binary64 intText)

/-! ### Vocabulary -/

/-- What a filter can constrain. -/
inductive Field where
  | publisher
  /-- The city of publication. -/
  | place
  /-- The country of publication. -/
  | country
  | year | language | title | subject
  /-- An agent's name as the record writes it. -/
  | agent
  /-- An agent's name as a match key. -/
  | agentNorm
  | agentRole | agentType
  deriving DecidableEq, Repr, Inhabited

namespace Field

def all : List Field :=
  [publisher, place, country, year, language, title, subject, agent, agentNorm, agentRole, agentType]

def name : Field → String
  | publisher => "publisher"
  | place => "place"
  | country => "country"
  | year => "year"
  | language => "language"
  | title => "title"
  | subject => "subject"
  | agent => "agent"
  | agentNorm => "agent_norm"
  | agentRole => "agent_role"
  | agentType => "agent_type"

end Field

/-- How a filter compares. -/
inductive Operator where
  | equals | contains | range | oneOf
  deriving DecidableEq, Repr, Inhabited

namespace Operator

def all : List Operator := [equals, contains, range, oneOf]

def name : Operator → String
  | equals => "equals"
  | contains => "contains"
  | range => "range"
  | oneOf => "in"

end Operator

/-- What a filter compares with. -/
inductive FilterValue where
  | text (s : String)
  | range (first last : Int)
  | set (values : List String)
  deriving DecidableEq, Repr

/-! ### Errors -/

/-- The shape of value that an operator asks for. -/
inductive ValueShape where
  | text | bounds | set
  deriving DecidableEq, Repr

def ValueShape.description : ValueShape → String
  | text => "a single string value"
  | bounds => "integer `start` and `end` bounds"
  | set => "an array of strings"

def Operator.shape : Operator → ValueShape
  | equals | contains => .text
  | range => .bounds
  | oneOf => .set

/-- Why a filter cannot be made. -/
inductive FilterError where
  | emptyValue (field : Field) (op : Operator)
  | emptySet (field : Field)
  | invertedRange (field : Field) (first last : Int)
  | wrongShape (field : Field) (op : Operator) (expected : ValueShape)
  | nonNumericYear (op : Operator) (value : String)
  | confidenceOutOfRange (x : Binary64)
  | unknownField (name : String)
  | unknownOperator (name : String)
  deriving DecidableEq, Repr

def FilterError.message : FilterError → String
  | emptyValue field op => field.name ++ " " ++ op.name ++ ": value must be a non-empty string"
  | emptySet field => field.name ++ " in: value set must contain at least one non-empty string"
  | invertedRange field first last =>
    field.name ++ " range: start (" ++ String.ofList (intText first) ++
      ") must not be greater than end (" ++ String.ofList (intText last) ++ ")"
  | wrongShape field op expected =>
    field.name ++ " " ++ op.name ++ ": expected " ++ expected.description
  | nonNumericYear op value => "year " ++ op.name ++ ": `" ++ value ++ "` is not an integer year"
  | confidenceOutOfRange x => "confidence " ++ String.ofList x.plainText ++ " is outside [0, 1]"
  | unknownField name => "unknown filter field `" ++ name ++ "`"
  | unknownOperator name => "unknown filter operator `" ++ name ++ "`"

/-! ### Names -/

/-- The field of a name, in any case, with hyphens for underscores if one likes. -/
def Field.parse (s : String) : Except FilterError Field :=
  let wanted := String.ofList
    ((Text.asciiLowercase (Text.trim s)).toList.map fun c => if c = '-' then '_' else c)
  match all.find? (·.name == wanted) with
  | some field => .ok field
  | none => .error (.unknownField s)

/-- The operator of a name, in any case. -/
def Operator.parse (s : String) : Except FilterError Operator :=
  let wanted := Text.asciiLowercase (Text.trim s)
  match all.find? (·.name == wanted) with
  | some op => .ok op
  | none => .error (.unknownOperator s)

/-! ### Filters -/

/-- One condition on a record. -/
structure Filter where
  field : Field
  op : Operator
  value : FilterValue
  negate : Bool
  confidence : Option Binary64
  notes : Option String
  deriving DecidableEq, Repr

namespace Filter

/-- The value as a filter keeps it, texts trimmed, if the operator admits it. -/
def checkValue (field : Field) (op : Operator) (value : FilterValue) :
    Except FilterError FilterValue :=
  match op, value with
  | .equals, .text s | .contains, .text s =>
    let s := Text.trim s
    if s.isEmpty then .error (.emptyValue field op)
    else if field = .year && op = .equals && (Number.parseInt32? s).isNone then
      .error (.nonNumericYear op s)
    else .ok (.text s)
  | .range, .range first last =>
    if last < first then .error (.invertedRange field first last) else .ok (.range first last)
  | .oneOf, .set values =>
    let values := values.map Text.trim
    if values.isEmpty || values.any (·.isEmpty) then .error (.emptySet field) else .ok (.set values)
  | op, _ => .error (.wrongShape field op op.shape)

/-- A filter that is not negated and has neither confidence nor notes. -/
def make? (field : Field) (op : Operator) (value : FilterValue) : Except FilterError Filter :=
  (checkValue field op value).map fun v => ⟨field, op, v, false, none, none⟩

def equals? (field : Field) (s : String) : Except FilterError Filter := make? field .equals (.text s)
def contains? (field : Field) (s : String) : Except FilterError Filter := make? field .contains (.text s)
def range? (field : Field) (first last : Int) : Except FilterError Filter :=
  make? field .range (.range first last)
def oneOf? (field : Field) (values : List String) : Except FilterError Filter :=
  make? field .oneOf (.set values)

/-- The filter that holds where this one does not, or the filter itself. -/
def negated (f : Filter) (negate : Bool) : Filter := { f with negate := negate }

/-- The filter with a confidence, which is a probability. -/
def withConfidence? (f : Filter) (x : Binary64) : Except FilterError Filter :=
  if Binary64.between Binary64.zero Binary64.one x then .ok { f with confidence := some x }
  else .error (.confidenceOutOfRange x)

def withNotes (f : Filter) (notes : String) : Filter := { f with notes := some notes }

/-! ### Views -/

def text? (f : Filter) : Option String :=
  match f.value with
  | .text s => some s
  | _ => none

def bounds? (f : Filter) : Option (Int × Int) :=
  match f.value with
  | .range first last => some (first, last)
  | _ => none

def set? (f : Filter) : Option (List String) :=
  match f.value with
  | .set values => some values
  | _ => none

/-- Texts in apostrophes, with a comma between neighbours, in parentheses. -/
def setText (values : List String) : String :=
  "(" ++ ", ".intercalate (values.map fun v => "'" ++ v ++ "'") ++ ")"

/-- The value as it is shown to people. -/
def valueText (f : Filter) : String :=
  match f.value with
  | .text s => "'" ++ s ++ "'"
  | .range first last => String.ofList (intText first ++ ['-'] ++ intText last)
  | .set values => setText values

/-- The filter as it is shown to people. -/
def display (f : Filter) : String :=
  (if f.negate then "NOT " else "") ++ f.field.name ++ " " ++ f.op.name ++ " " ++ f.valueText

/-- The filter as a clause that says why a record matched. -/
def rationale (f : Filter) : String :=
  let body := match f.op, f.value with
    | _, .range first last => f.field.name ++ "=" ++ String.ofList (intText first ++ ['-'] ++ intText last)
    | .contains, .text s => f.field.name ++ "~'" ++ s ++ "'"
    | _, .text s => f.field.name ++ "='" ++ s ++ "'"
    | _, .set values => f.field.name ++ " in " ++ setText values
  if f.negate then "NOT " ++ body else body

/-! ### Validity -/

/-- A text that is trimmed and not empty. -/
def Trimmed (s : String) : Prop := Text.trim s = s ∧ s ≠ ""

/-- A value of the shape that the operator asks for. -/
def ValueFits (field : Field) : Operator → FilterValue → Prop
  | .equals, .text s => Trimmed s ∧ (field = .year → (Number.parseInt32? s).isSome)
  | .contains, .text s => Trimmed s
  | .range, .range first last => first ≤ last
  | .oneOf, .set values => values ≠ [] ∧ ∀ v ∈ values, Trimmed v
  | _, _ => False

/-- A finite number from 0 to 1. -/
def IsProbability (x : Binary64) : Prop := x.isFinite ∧ Binary64.between Binary64.zero Binary64.one x

/-- What every filter satisfies that the functions of this module make. -/
structure Valid (f : Filter) : Prop where
  value : ValueFits f.field f.op f.value
  confidence : ∀ x ∈ f.confidence, IsProbability x

end Filter

/-- One clause for each filter, joined by `AND`. -/
def rationale (filters : List Filter) : String := " AND ".intercalate (filters.map Filter.rationale)

end Catalogue
