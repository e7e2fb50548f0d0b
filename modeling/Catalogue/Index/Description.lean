import Catalogue.Index.Store
import Catalogue.Text.MatchKey

/-! Bibliographic descriptions, and how they are entered into an index: what a
record says stays as it is, and names are stored beside their match keys. -/
namespace Catalogue.Index

open Number (Binary64 intText)

/-- Someone who had a part in a book. -/
structure Agent where
  name : String
  role : String
  /-- Whether this is a person, a corporate body, or something else. -/
  type : String
  /-- The tag that the name was recorded under. -/
  tag : String
  deriving DecidableEq, Repr

/-- What is known of a book. -/
structure Description where
  key : String
  publisher : Option String
  place : Option String
  /-- The country's code and name. -/
  country : Option (String × String)
  /-- The first and the last year of publication. -/
  years : Option (Int × Int)
  languages : List String
  titles : List String
  subjects : List String
  agents : List Agent
  deriving DecidableEq, Repr

namespace Description

/-- The description of a book of which nothing is known. -/
def ofKey (key : String) : Description := ⟨key, none, none, none, none, [], [], [], []⟩

/-- Years as a record writes them: a single year, or two with a hyphen between them. -/
def yearsText (years : Int × Int) : String :=
  if years.1 = years.2 then String.ofList (intText years.1)
  else String.ofList (intText years.1 ++ ['-'] ++ intText years.2)

/-- Where a value was recorded: an object with its tag and occurrence. -/
def origin (tag : String) (occurrence : Nat) : String :=
  "\x7b\"tag\": \"" ++ tag ++ "\", \"occurrence\": " ++ toString occurrence ++ "\x7d"

/-- A number of hundredths as a cell. -/
def hundredths (n : Nat) : Cell := .real (Binary64.ofRatio false n 100)

/-! ### Rows -/

/-- The imprint of a description. -/
def imprint (record : Int) (d : Description) : Entries Cell := [
  ("record_id", .int record), ("occurrence", .int 0), ("source_tags", .text "[\"264\"]"),
  ("date_raw", .ofText? (d.years.map yearsText)),
  ("date_start", .ofInt? (d.years.map (·.1))), ("date_end", .ofInt? (d.years.map (·.2))),
  ("date_confidence", hundredths 95), ("date_method", .text "fixture"),
  ("place_raw", .ofText? d.place), ("place_norm", .ofText? (d.place.map Text.matchKey)),
  ("place_confidence", hundredths 90), ("place_method", .text "fixture"),
  ("publisher_raw", .ofText? d.publisher),
  ("publisher_norm", .ofText? (d.publisher.map Text.matchKey)),
  ("publisher_confidence", hundredths 90), ("publisher_method", .text "fixture"),
  ("country_code", .ofText? (d.country.map (·.1))), ("country_name", .ofText? (d.country.map (·.2)))]

def languageRow (record : Int) (code : String) : Entries Cell :=
  [("record_id", .int record), ("code", .text code), ("source", .text "041")]

def titleRow (record : Int) (title : String × Nat) : Entries Cell := [
  ("record_id", .int record), ("title_type", .text "main"), ("value", .text title.1),
  ("source", .text (origin "245" title.2))]

def subjectRow (record : Int) (subject : String × Nat) : Entries Cell := [
  ("record_id", .int record), ("value", .text subject.1), ("source_tag", .text "650"),
  ("scheme", .text "lcsh"), ("source", .text (origin "650" subject.2))]

def agentRow (record : Int) (agent : Agent × Nat) : Entries Cell := [
  ("record_id", .int record), ("agent_index", .int agent.2), ("agent_raw", .text agent.1.name),
  ("agent_type", .text agent.1.type), ("role_raw", .text agent.1.role),
  ("agent_norm", .text (Text.matchKey agent.1.name)), ("agent_confidence", hundredths 85),
  ("agent_method", .text "fixture"), ("role_norm", .text (Text.lowercase agent.1.role)),
  ("role_confidence", hundredths 80), ("role_method", .text "fixture"),
  ("provenance_json", .text ("[" ++ origin agent.1.tag agent.2 ++ "]"))]

/-- The rows of a description, each with its table. -/
def rows (record : Int) (d : Description) : List (Table × Entries Cell) :=
  [(.imprints, imprint record d)] ++ d.languages.map (fun c => (.languages, languageRow record c)) ++
    d.titles.zipIdx.map (fun t => (.titles, titleRow record t)) ++
    d.subjects.zipIdx.map (fun s => (.subjects, subjectRow record s)) ++
    d.agents.zipIdx.map (fun a => (.agents, agentRow record a))

end Description

/-- Stores several rows. -/
def addAll? (ix : Index) (rows : List (Table × Entries Cell)) : Option Index :=
  rows.foldlM (fun ix r => ix.add? r.1 r.2) ix

/-- Enters a description, and gives the number of its record. -/
def describe? (ix : Index) (d : Description) : Option (Int × Index) := do
  let (record, ix) ← ix.addRecord? [("mms_id", .text d.key)]
  return (record, ← ix.addAll? (d.rows record))

/-- Enters several descriptions, and gives the numbers of their records. -/
def describeAll? (ix : Index) : List Description → Option (List Int × Index)
  | [] => some ([], ix)
  | d :: rest => do
    let (record, ix) ← ix.describe? d
    let (more, ix) ← ix.describeAll? rest
    return (record :: more, ix)

end Catalogue.Index
