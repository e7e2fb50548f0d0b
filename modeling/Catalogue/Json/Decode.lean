import Catalogue.Json.Document
import Catalogue.Text.Quoted

/-! Reading values of other types from a JSON tree. Readers go through the tree
from left to right, so that of several faults the first in the text is reported,
whether it lies in the text's form or in what it says. A tree comes from a text
or from a value that is already in memory. -/
namespace Catalogue.Json

open Number (Binary64 intText)

/-! ### Errors -/

/-- What stands where something else is expected. -/
inductive Found where
  | null
  | bool (b : Bool)
  | int (n : Int)
  | float (x : Binary64)
  | str (s : String)
  | list
  | object
  deriving DecidableEq, Repr

def Found.message : Found → String
  | null => "null"
  | bool b => "boolean `" ++ String.ofList (boolText b) ++ "`"
  | int n => "integer `" ++ String.ofList (intText n) ++ "`"
  | float x => "floating point `" ++ String.ofList x.interchangeText ++ "`"
  | str s => "string " ++ Text.quoted s
  | list => "sequence"
  | object => "map"
where
  boolText (b : Bool) : List Char := if b then ['t', 'r', 'u', 'e'] else ['f', 'a', 'l', 's', 'e']

/-- Why a well-formed text does not say what is asked for. -/
inductive DataError where
  | wrongType (found : Found) (expected : String)
  | outOfRange (n : Int) (expected : String)
  | wrongLength (n : Nat) (expected : String)
  | missingField (name : String)
  | duplicateField (name : String)
  | noAlternative (type : String)
  /-- A rule of the value itself is broken. -/
  | refused (message : String)
  deriving DecidableEq, Repr

def DataError.message : DataError → String
  | wrongType found expected => "invalid type: " ++ found.message ++ ", expected " ++ expected
  | outOfRange n expected =>
    "invalid value: integer `" ++ String.ofList (intText n) ++ "`, expected " ++ expected
  | wrongLength n expected => "invalid length " ++ toString n ++ ", expected " ++ expected
  | missingField name => "missing field `" ++ name ++ "`"
  | duplicateField name => "duplicate field `" ++ name ++ "`"
  | noAlternative type => "data did not match any variant of untagged enum " ++ type
  | refused message => message

/-- Why a text cannot be read as a value of some type. -/
inductive DecodeError where
  | form (e : SyntaxError)
  | content (e : DataError)
  deriving DecidableEq, Repr

def DecodeError.message : DecodeError → String
  | form e => e.message
  | content e => e.message

/-! ### Readers -/

/-- Where a tree comes from, and how many more levels of nesting may be entered. -/
structure Source where
  ofText : Bool
  depth : Nat
  deriving DecidableEq, Repr

/-- A text: lists and objects nest to a depth of 127. -/
def Source.text : Source := ⟨true, 128⟩

/-- A value in memory. No value that was read from a text is nested deeper than the bound. -/
def Source.memory : Source := ⟨false, 0⟩

/-- The source one level down. -/
def Source.enter (src : Source) : Except DecodeError Source :=
  if !src.ofText then .ok src
  else if src.depth ≤ 1 then .error (.form .nestedTooDeep)
  else .ok { src with depth := src.depth - 1 }

/-- Reads a value of a type from a tree. -/
abbrev Reader (α : Type) := Source → Document → Except DecodeError α

/-- A finished scalar's content. -/
def content {α : Type} : Except SyntaxError α → Except DecodeError α
  | .ok v => .ok v
  | .error e => .error (.form e)

/-- The end of a list or object: an error if the text broke off there. -/
def checkStop : Option Fault → Except DecodeError Unit
  | none => .ok ()
  | some f => .error (.form f.reading)

/-- Passes over a tree whose content does not matter. -/
def skip (d : Document) : Except DecodeError Unit :=
  match d.fault? with
  | none => .ok ()
  | some f => .error (.form f.skipping)

/-- The error of a tree that is not of the expected type. -/
def mismatch {α : Type} (expected : String) : Document → Except DecodeError α
  | .broken f => .error (.form f.reading)
  | .null => fail .null
  | .bool b => fail (.bool b)
  | .number v => do
    match ← content v with
    | .int n => fail (.int n)
    | .float x => fail (.float x)
    | _ => fail .null
  | .string s => do fail (.str (← content s))
  | .list _ _ => fail .list
  | .object _ _ => fail .object
where
  fail (found : Found) : Except DecodeError α := .error (.content (.wrongType found expected))

/-- A string. -/
def readString : Reader String := fun _ d =>
  match d with
  | .string s => content s
  | d => mismatch "a string" d

/-- A truth value. -/
def readBool : Reader Bool := fun _ d =>
  match d with
  | .bool b => .ok b
  | d => mismatch "a boolean" d

/-- An integer in a range. -/
def readInt (expected : String) (range : Number.IntRange) : Reader Int := fun _ d =>
  match d with
  | .number v => do
    match ← content v with
    | .int n => if range.holds n then .ok n else .error (.content (.outOfRange n expected))
    | _ => mismatch expected d
  | d => mismatch expected d

/-- A floating-point number; an integer is rounded to the nearest. -/
def readFloat : Reader Binary64 := fun _ d =>
  match d with
  | .number v => do
    match ← content v with
    | .int n => .ok (Binary64.ofInt n)
    | .float x => .ok x
    | _ => mismatch "f64" d
  | d => mismatch "f64" d

/-- Null for none, or a value. -/
def readOption {α : Type} (r : Reader α) : Reader (Option α) := fun src d =>
  match d with
  | .null => .ok none
  | d => (r src d).map some

/-- A list of values. -/
def readList {α : Type} (r : Reader α) : Reader (List α) := fun src d =>
  match d with
  | .list items stop => do
    let inner ← src.enter
    let vs ← items.mapM (r inner)
    checkStop stop
    return vs
  | d => mismatch "a sequence" d

/-! ### Any value -/

mutual

/-- The value that a tree is. -/
def readAny (src : Source) : Document → Except DecodeError Json
  | .null => .ok .null
  | .bool b => .ok (.bool b)
  | .number v => content v
  | .string s => (content s).map .str
  | .list items stop => do
    let inner ← src.enter
    let vs ← readAnyItems inner items
    checkStop stop
    return .arr vs
  | .object entries stop => do
    let inner ← src.enter
    let es ← readAnyEntries inner entries
    checkStop stop
    return .object es
  | .broken f => .error (.form f.reading)

def readAnyItems (src : Source) : List Document → Except DecodeError (List Json)
  | [] => .ok []
  | d :: rest => do return (← readAny src d) :: (← readAnyItems src rest)

def readAnyEntries (src : Source) :
    List (StringContent × Document) → Except DecodeError (List (String × Json))
  | [] => .ok []
  | (k, d) :: rest => do
    let key ← content k
    let v ← readAny src d
    return (key, v) :: (← readAnyEntries src rest)

end

/-- An object of any values, keys ascending. -/
def readEntries : Reader (List (String × Json)) := fun src d =>
  match d with
  | .object entries stop => do
    let inner ← src.enter
    let es ← readAnyEntries inner entries
    checkStop stop
    return Entries.sorted es
  | d => mismatch "a map" d

/-! ### Records -/

/-- A record read from an object by the names of its fields, or from a list by their order. -/
structure RecordShape (σ : Type) where
  /-- The name of the record's type in messages. -/
  name : String
  fields : List String
  /-- The fields that may not be absent. -/
  required : List String
  /-- Nothing read yet. -/
  empty : σ
  /-- Reads a field's value into the record. -/
  readField : σ → String → Source → Document → Except DecodeError σ

namespace RecordShape

variable {σ : Type} (shape : RecordShape σ)

/-- The entries of an object, after the fields in `seen`. -/
def readObject (src : Source) : List String → σ → List (StringContent × Document) →
    Except DecodeError (List String × σ)
  | seen, record, [] => .ok (seen, record)
  | seen, record, (k, d) :: rest => do
    let key ← content k
    if shape.fields.contains key then
      if seen.contains key then throw (.content (.duplicateField key))
      let record ← shape.readField record key src d
      readObject src (key :: seen) record rest
    else
      skip d
      readObject src seen record rest

/-- Items for the fields in their order; also the items that are left. -/
def readItems (src : Source) : σ → List String → List Document →
    Except DecodeError (σ × List Document)
  | record, [], items => .ok (record, items)
  | record, _ :: _, [] => .ok (record, [])
  | record, field :: fields, d :: rest => do
    let record ← shape.readField record field src d
    readItems src record fields rest

/-- The first required field that is not among those read. -/
def absent? (seen : List String) : Option String :=
  shape.fields.find? fun f => shape.required.contains f && !seen.contains f

/-- What a list of a record's fields should be. -/
def lengthText : String :=
  "struct " ++ shape.name ++ " with " ++ toString shape.fields.length ++ " elements"

/-- The end of a list that holds all fields. -/
def checkRest (src : Source) (count : Nat) (rest : List Document) (stop : Option Fault) :
    Except DecodeError Unit :=
  if !src.ofText then
    if rest.isEmpty then .ok ()
    else .error (.content (.wrongLength count "fewer elements in array"))
  else if !rest.isEmpty then .error (.form .trailingCharacters)
  else match stop with
    | none => .ok ()
    | some f =>
      if f.reading = .eofList || f.reading = .trailingComma then .error (.form f.reading)
      else .error (.form .trailingCharacters)

/-- A record from an object or a list. -/
def read : Reader σ := fun src d =>
  match d with
  | .object entries stop => do
    let inner ← src.enter
    let (seen, record) ← shape.readObject inner [] shape.empty entries
    checkStop stop
    match shape.absent? seen with
    | some field => throw (.content (.missingField field))
    | none => return record
  | .list items stop => do
    let inner ← src.enter
    let (record, rest) ← shape.readItems inner shape.empty shape.fields items
    if items.length < shape.fields.length then
      checkStop stop
      match shape.absent? (shape.fields.take items.length) with
      | some field => throw (.content (.wrongLength (shape.fields.idxOf field) shape.lengthText))
      | none => return record
    else
      checkRest src items.length rest stop
      return record
  | d => mismatch ("struct " ++ shape.name) d

end RecordShape

/-! ### Texts and values -/

/-- Reads a value from a text and nothing after it. -/
def decode {α : Type} (r : Reader α) (s : String) : Except DecodeError α := do
  let (tree, more) := Json.read s.toList
  let v ← r .text tree
  if more then throw (.form .trailingCharacters)
  return v

/-- The JSON value of a text. -/
def parse (s : String) : Except DecodeError Json := decode readAny s

mutual

/-- A value in memory as a tree. -/
def toDocument : Json → Document
  | null => .null
  | bool b => .bool b
  | int n => .number (.ok (int n))
  | float x => .number (.ok (float x))
  | str s => .string (.ok s)
  | arr items => .list (toDocuments items) none
  | obj entries => .object (toEntries entries) none

def toDocuments : List Json → List Document
  | [] => []
  | v :: rest => toDocument v :: toDocuments rest

def toEntries : List (String × Json) → List (StringContent × Document)
  | [] => []
  | (k, v) :: rest => (.ok k, toDocument v) :: toEntries rest

end

/-- Reads a value from a JSON value. -/
def decodeValue {α : Type} (r : Reader α) (v : Json) : Except DecodeError α := r .memory (toDocument v)

end Catalogue.Json
