import Catalogue.Model.Error
import Catalogue.Plan.Basic

/-! A language model's answer and the plan in it. Models like to wrap the object
they are asked for in prose; it is found by balancing braces outside strings.
The plan is taken whole or not at all. -/
namespace Catalogue.Model

open Json

/-! ### Finding the object -/

/-- Why no object can be found in an answer. -/
inductive AnswerError where
  | noObject
  | unterminated
  | notJson (e : DecodeError)
  deriving DecidableEq, Repr

def AnswerError.message : AnswerError → String
  | noObject => "response is not JSON (no '\x7b' found)"
  | unterminated => "response contains an unterminated JSON object"
  | notJson e => "response is not valid JSON: " ++ e.message

/-- Where a scan for the closing brace is: outside strings, inside one, or after a backslash. -/
inductive ScanState where
  | plain | inString | escaped
  deriving DecidableEq, Repr

/-- The text up to the brace that closes the last of `depth` open ones. -/
def balanced (depth : Nat) (state : ScanState) : List Char → Option (List Char)
  | [] => none
  | c :: rest =>
    match state with
    | .escaped => (balanced depth .inString rest).map (c :: ·)
    | .inString =>
      let next := if c = '\\' then ScanState.escaped else if c = '"' then .plain else .inString
      (balanced depth next rest).map (c :: ·)
    | .plain =>
      if c = '"' then (balanced depth .inString rest).map (c :: ·)
      else if c = '\x7b' then (balanced (depth + 1) .plain rest).map (c :: ·)
      else if c = '\x7d' then
        if depth ≤ 1 then some [c] else (balanced (depth - 1) .plain rest).map (c :: ·)
      else (balanced depth .plain rest).map (c :: ·)

def isObject : Json → Bool
  | .obj _ => true
  | _ => false

/-- The whole answer, if it is an object. -/
def wholeObject? (s : String) : Option Json :=
  match parse s with
  | .ok v => if isObject v then some v else none
  | .error _ => none

/-- The first object in an answer. -/
def extractObject (answer : String) : Except AnswerError Json :=
  let trimmed := Text.trim answer
  match wholeObject? trimmed with
  | some v => .ok v
  | none =>
    match trimmed.toList.dropWhile (· ≠ '\x7b') with
    | [] => .error .noObject
    | fromBrace =>
      match balanced 0 .plain fromBrace with
      | none => .error .unterminated
      | some object => (parse (String.ofList object)).mapError .notJson

/-! ### The plan in it -/

/-- What the model is asked to return. -/
structure Answer where
  filters : List Json
  explanation : Option String
  error : Option String

namespace Answer

/-- Reads one field of an answer. -/
def readField (a : Answer) (name : String) (src : Source) (d : Document) : Except DecodeError Answer :=
  match name with
  | "filters" => return { a with filters := ← readList readAny src d }
  | "explanation" => return { a with explanation := ← readOption readString src d }
  | _ => return { a with error := ← readOption readString src d }

def shape : RecordShape Answer where
  name := "PlanResponse"
  fields := ["filters", "explanation", "error"]
  required := []
  empty := ⟨[], none, none⟩
  readField := readField

/-- The filters of an answer, from position `i` on. The first that cannot be read is reported. -/
def filtersFrom (i : Nat) : List Json → Except CompileError (List Filter)
  | [] => .ok []
  | v :: rest =>
    match decodeValue Filter.read v with
    | .ok f => (filtersFrom (i + 1) rest).map (f :: ·)
    | .error e => .error (.invalidResponse ("filter " ++ toString i ++ ": " ++ e.message))

/-- A text that is not blank. -/
def nonBlank (s : Option String) : Option String := s.filter fun s => !Text.isBlank s

end Answer

/-- The name under which plans record that a language model made them. -/
def backend : String := "llm"

/-- The plan in the object of an answer to a question, without a limit. -/
def planOf (model queryText : String) (object : Json) : Except CompileError Plan := do
  let a ← match decodeValue Answer.shape.read object with
    | .ok a => pure a
    | .error e => throw (.invalidResponse ("unexpected response shape: " ++ e.message))
  match Answer.nonBlank a.error with
  | some reason => throw (.invalidResponse
      ("model could not express the question as filters: " ++ Text.trim reason))
  | none =>
    let filters ← Answer.filtersFrom 0 a.filters
    let plan := (((Plan.ofText queryText).withFilters filters).withDebug Plan.Key.backend
      (.str backend)).withDebug Plan.Key.model (.str model)
    return match Answer.nonBlank a.explanation with
      | some text => plan.withDebug Plan.Key.explanation (.str text)
      | none => plan

end Catalogue.Model
