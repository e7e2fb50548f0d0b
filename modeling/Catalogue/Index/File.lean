import Catalogue.Index.Description
import Catalogue.Json.Decode

/-! Indexes in files: a line of JSON for each description, in the order in which they
are entered. A file with any other content gives an index that has lost
everything, so that no statement can be run on it. -/
namespace Catalogue.Index

open Json

/-! ### Descriptions as JSON -/

namespace Agent

def readField (a : Agent) (name : String) (src : Source) (d : Document) : Except DecodeError Agent :=
  match name with
  | "raw" => return { a with name := ← readString src d }
  | "role" => return { a with role := ← readString src d }
  | "type" => return { a with type := ← readString src d }
  | _ => return { a with tag := ← readString src d }

def shape : RecordShape Agent where
  name := "Agent"
  fields := ["raw", "role", "type", "tag"]
  required := ["raw"]
  empty := ⟨"", "Printer", "personal", "700"⟩
  readField := readField

end Agent

namespace Description

/-- A list of two. -/
def readPair {α : Type} (r : Reader α) : Reader (α × α) := fun src d => do
  match ← readList r src d with
  | [a, b] => return (a, b)
  | items => throw (.content (.wrongLength items.length "a list of two"))

/-- A year. -/
def readYear : Reader Int := readInt "a year" Number.int32

def readField (b : Description) (name : String) (src : Source) (d : Document) :
    Except DecodeError Description :=
  match name with
  | "mms_id" => return { b with key := ← readString src d }
  | "publisher" => return { b with publisher := ← readOption readString src d }
  | "place" => return { b with place := ← readOption readString src d }
  | "country" => return { b with country := ← readOption (readPair readString) src d }
  | "years" => return { b with years := ← readOption (readPair readYear) src d }
  | "languages" => return { b with languages := ← readList readString src d }
  | "titles" => return { b with titles := ← readList readString src d }
  | "subjects" => return { b with subjects := ← readList readString src d }
  | _ => return { b with agents := ← readList Agent.shape.read src d }

def shape : RecordShape Description where
  name := "Description"
  fields := ["mms_id", "publisher", "place", "country", "years", "languages", "titles", "subjects",
    "agents"]
  required := ["mms_id"]
  empty := ofKey ""
  readField := readField

/-- Reads a description. -/
def read : Reader Description := shape.read

end Description

/-! ### Files -/

/-- An index that has lost everything. -/
def unreadable : Index := { empty with lost := Relation.all }

/-- The index of the descriptions on lines of text; blank lines do not count. -/
def ofLines? (lines : List String) : Option Index := do
  let descriptions ← (lines.filter fun s => !Text.isBlank s).mapM fun s =>
    (decode Description.read s).toOption
  return (← empty.describeAll? descriptions).2

/-- The index in a file that has some content. -/
def ofText (content : String) : Index :=
  if Text.isBlank content then unreadable
  else (ofLines? (content.splitOn "\n")).getD unreadable

end Catalogue.Index
