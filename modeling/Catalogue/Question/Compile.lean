import Catalogue.Plan.Basic
import Catalogue.Question.Phrase

/-! A plan for a question, found by its phrases alone. This never fails: a
question without any known phrase gives a plan without filters. -/
namespace Catalogue.Question

/-- The name under which plans record this compiler. -/
def backend : String := "heuristic"

/-- A filter that a phrase gave, with the name of its family and of the phrase. -/
structure Finding where
  family : String
  phrase : String
  filter : Filter

/-- A finding, if the filter can be made. -/
def finding? (family phrase : String) (filter : Except FilterError Filter) : Option Finding :=
  match filter with
  | .ok f => some ⟨family, phrase, f⟩
  | .error _ => none

/-- The publisher that a question names. -/
def publisher? (text : List Char) : Option Finding := do
  let (name, key) ← firstPhrase publisherPhrases text
  finding? "publisher" name (Filter.equals? .publisher key)

/-- The years that a question names, the earlier first, and whether it names the later first. -/
def years? (text : List Char) : Option Finding × Bool :=
  match firstPhrase yearPhrases text with
  | some (name, first, last) =>
    if last < first then (finding? "year" name (Filter.range? .year last first), true)
    else (finding? "year" name (Filter.range? .year first last), false)
  | none => (none, false)

/-- The place that a question names. -/
def place? (text : List Char) : Option Finding := do
  let (name, key) ← firstPhrase placePhrases text
  finding? "place" name (Filter.equals? .place key)

/-- The language that a question names. -/
def language? (text : List Char) : Option Finding := do
  let (name, code) ← firstPhrase languagePhrases text
  finding? "language" name (Filter.equals? .language code)

/-- The plan of a question. -/
def compile (queryText : String) (limit : Option Nat) : Plan :=
  let text := queryText.toList
  let (years, swapped) := years? text
  let findings := [publisher? text, years, place? text, language? text].filterMap id
  let patterns := Json.object (findings.map fun f => (f.family, .str f.phrase))
  let plan := ((((Plan.ofText queryText).withFilters (findings.map (·.filter))).withLimit limit).withDebug
    Plan.Key.backend (.str backend)).withDebug Plan.Key.patterns patterns
  if swapped then plan.withDebug Plan.Key.swappedYearBounds (.bool true) else plan

end Catalogue.Question
