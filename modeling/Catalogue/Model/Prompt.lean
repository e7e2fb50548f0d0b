import Catalogue.Model.Error
import Catalogue.Plan.Schema
import Catalogue.Text.Clip

/-! What a language model is told: the rules of the plan language, the question,
and, where a first answer was no use, what was wrong with it. -/
namespace Catalogue.Model

open Text (clip)

/-! ### The standing instructions -/

/-- What the model is to do and the vocabulary it may use. -/
def instructionsHead : String :=
  String.join [
    "You translate questions about a rare-book catalogue into a JSON query plan.\n",
    "\n",
    "Return ONLY a JSON object: \x7b\"filters\": [...], \"explanation\": <one sentence or null>, \"error\": null\x7d.\n",
    "If the question cannot be expressed as filters, return \x7b\"filters\": [], \"explanation\": null, \"error\": \"<short reason>\"\x7d.\n",
    "\n",
    "Fields: "]

/-- The rules for filters, and examples. -/
def instructionsRules : String :=
  String.join [
    "\n",
    "\n",
    "Rules:\n",
    "- Every filter must hold (filters are AND-ed). Use `negate: true` for \"not\"/\"except\".\n",
    "- `year` only supports `range` with integer `start` and `end` (inclusive). \"in 1550\" is start=end=1550.\n",
    "  The Nth century is start=(N-1)*100+1, end=N*100 (16th century = 1501..1600).\n",
    "- `equals` and `contains` take a string `value`; `in` takes an array of strings.\n",
    "- Publisher, place and agent_norm values are match keys: lower-case, no brackets, no punctuation\n",
    "  except hyphens, single spaces. \"[Venetiis]\" becomes \"venetiis\".\n",
    "- `language` values are MARC language codes (lat, heb, eng, fre, ger, ita, spa, gre, ara, yid).\n",
    "- Use `contains` for topical words on `subject` and `title`; `equals` only for exact headings.\n",
    "- Set `confidence` between 0 and 1 for each filter; explain uncertain choices in `notes`.\n",
    "\n",
    "Disambiguation:\n",
    "- \"printed in Venice\" / \"from Amsterdam\" is a city: field `place`.\n",
    "  \"printed in Italy\" / \"German imprints\" is a country: field `country`.\n",
    "- \"published by Aldus\" is the imprint publisher: field `publisher`.\n",
    "  \"printed by Bomberg\" names the printer as an agent: field `agent_norm` equals \"bomberg\"\n",
    "  AND field `agent_role` equals \"printer\".\n",
    "\n",
    "Examples:\n",
    "Q: books published by Elzevir between 1600 and 1650\n",
    "\x7b\"filters\": [\x7b\"field\": \"publisher\", \"op\": \"equals\", \"value\": \"elzevir\", \"start\": null, \"end\": null, \"negate\": false, \"confidence\": 0.9, \"notes\": null\x7d,\n",
    "              \x7b\"field\": \"year\", \"op\": \"range\", \"value\": null, \"start\": 1600, \"end\": 1650, \"negate\": false, \"confidence\": 0.95, \"notes\": null\x7d]\x7d\n",
    "Q: Hebrew books printed by Bomberg\n",
    "\x7b\"filters\": [\x7b\"field\": \"language\", \"op\": \"equals\", \"value\": \"heb\", \"start\": null, \"end\": null, \"negate\": false, \"confidence\": 0.9, \"notes\": null\x7d,\n",
    "              \x7b\"field\": \"agent_norm\", \"op\": \"equals\", \"value\": \"bomberg\", \"start\": null, \"end\": null, \"negate\": false, \"confidence\": 0.85, \"notes\": null\x7d,\n",
    "              \x7b\"field\": \"agent_role\", \"op\": \"equals\", \"value\": \"printer\", \"start\": null, \"end\": null, \"negate\": false, \"confidence\": 0.85, \"notes\": null\x7d]\x7d\n"]

/-- The instructions that go with every question. -/
def instructions : String :=
  instructionsHead ++ ", ".intercalate (Field.all.map Field.name) ++ "\nOperators: " ++
    ", ".intercalate (Operator.all.map Operator.name) ++ instructionsRules

/-! ### Prompts -/

/-- A subject heading of the index and how many records carry it. -/
structure SubjectHint where
  value : String
  count : Nat
  deriving DecidableEq, Repr

/-- The prompt of a question. -/
def questionPrompt (queryText : String) : String := "Question: " ++ queryText

/-- The prompt that asks for a subject the index has, after a plan without results. -/
def subjectPrompt (plan : Plan) (hints : List SubjectHint) : String :=
  "Question: " ++ plan.queryText ++ "\n\n---\nYour previous plan returned no records:\n" ++
    (Json.arr (plan.filters.map Filter.toJson)).compact ++ "\n\n" ++
    "The catalogue's most frequent subject headings are listed below with their record counts.\n" ++
    "Replace the subject filter with a `contains` filter on the closest heading from this list " ++
    "(use a distinctive word of the heading as the value). Keep all other filters unchanged.\n\n" ++
    String.join (hints.map fun h => "- " ++ h.value ++ " (" ++ toString h.count ++ ")\n")

/-- The prompt after an answer in which no plan could be found: the question again, the shape of a
plan, and the start of that answer. -/
def repairPrompt (prompt answer problem : String) : String :=
  prompt ++ "\n\n---\nYour last answer could not be parsed as a query plan (" ++ problem ++ ").\n" ++
    "Answer again with a single JSON object and nothing around it:\n" ++
    "\x7b\"filters\": [\x7b\"field\", \"op\", \"value\", \"start\", \"end\", \"negate\", " ++
    "\"confidence\", \"notes\"\x7d, ...], \"explanation\": string or null, \"error\": string or null\x7d\n\n" ++
    "Your last answer began:\n" ++ clip 1500 answer ++ "\n"

end Catalogue.Model
