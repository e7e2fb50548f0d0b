import Catalogue.Json.Printer
import Catalogue.Text.Space

/-! Where in a catalogue record a value comes from: a tag and, if it is known, the
number of its occurrence, written `tag[occurrence]`. Provenance is recorded as a
bare tag, as an object with `tag` and `occurrence`, or as a list of these. -/
namespace Catalogue

open Number (intText)

namespace Provenance

/-- A tag, and in brackets its occurrence if that is known. -/
def label (tag : String) (occurrence : Option Int) : String :=
  match occurrence with
  | some n => tag ++ "[" ++ String.ofList (intText n) ++ "]"
  | none => tag

/-- The tag that an object names: a text or a number. -/
def tagOf? (entries : List (String × Json)) : Option String := do
  match ← (Entries.get? "tag" entries).or (Entries.get? "source_tag" entries) with
  | .str s => some s
  | .int n => some (Json.int n).compact
  | .float x => some (Json.float x).compact
  | _ => none

/-- Several labels, with a comma between neighbours; none if there are none. -/
def join? (labels : List String) : Option String :=
  if labels.isEmpty then none else some (", ".intercalate labels)

mutual

/-- Provenance as a label. `occurrence` is the occurrence where none is recorded. -/
def render? (occurrence : Option Int) : Json → Option String
  | .null => none
  | .bool _ => none
  | .str s => if Text.isBlank s then none else some (label (Text.trim s) occurrence)
  | .int n => some (label (Json.int n).compact occurrence)
  | .float x => some (label (Json.float x).compact occurrence)
  | .arr items => join? (renderItems occurrence items)
  | .obj entries =>
    (tagOf? entries).map fun tag =>
      label tag (((Entries.get? "occurrence" entries).bind Json.int64?).or occurrence)

/-- The labels of those items that have one. -/
def renderItems (occurrence : Option Int) : List Json → List String
  | [] => []
  | v :: rest =>
    match render? occurrence v with
    | some s => s :: renderItems occurrence rest
    | none => renderItems occurrence rest

end

end Provenance
end Catalogue
