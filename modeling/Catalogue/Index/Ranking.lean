import Catalogue.Index.Selection
import Catalogue.Model.Prompt

/-! Which values are most frequent: facets over the records of a result, and the
subject headings of the whole index. Values are ranked by the number of records
that have them, and then in the order of the values themselves. -/
namespace Catalogue.Index

open Model (SubjectHint)
open Number (Binary64 Numeric int64)

/-! ### Counting -/

/-- A value, and the number of records that have it. -/
structure Bucket where
  value : String
  count : Nat
  deriving DecidableEq, Repr

def Bucket.toJson (b : Bucket) : Json := .obj [("value", .str b.value), ("count", .nat b.count)]

/-- The different members of a list, each at its last place. -/
def distinct {α : Type} [BEq α] : List α → List α
  | [] => []
  | a :: rest => if rest.contains a then distinct rest else a :: distinct rest

/-- The number of different owners that a value has. -/
def owners (value : Cell) (pairs : List (Cell × Cell)) : Nat :=
  (distinct ((pairs.filter fun p => p.2 == value).map (·.1))).length

/-- Whether a counted value comes before another. -/
def ranksBefore (a b : Cell × Nat) : Bool :=
  b.2 < a.2 || (a.2 == b.2 && Cell.order a.1 b.1 == .lt)

/-- Puts a counted value in its place among others. -/
def insertRanked (a : Cell × Nat) : List (Cell × Nat) → List (Cell × Nat)
  | [] => [a]
  | b :: rest => if ranksBefore a b then a :: b :: rest else b :: insertRanked a rest

/-- The values of pairs of owner and value, with the number of owners of each, in their order. -/
def ranking (pairs : List (Cell × Cell)) : List (Cell × Nat) :=
  (distinct (pairs.map (·.2))).foldr (fun v done => insertRanked (v, owners v pairs) done) []

/-- A counted value as a bucket; nothing but a text is one. -/
def bucket? : Cell × Nat → Option Bucket
  | (.text s, n) => some ⟨s, n⟩
  | _ => none

/-- The first buckets of a ranking; none if one of them is no text. -/
def top? (limit : Nat) (pairs : List (Cell × Cell)) : Option (List Bucket) :=
  ((ranking pairs).take limit).mapM bucket?

/-! ### Facets -/

/-- Values that are counted over a result. -/
inductive Facet where
  | place | publisher | language | decade | century
  deriving DecidableEq, Repr

/-- A cell as a number; a text counts as the number at its start. -/
def number : Cell → Numeric
  | .int n => .int n
  | .real x => .real x
  | c => (Number.leadingNumber (c.characters?.getD [])).1

/-- The year that a decade begins with; division rounds toward zero. -/
def decadeStart : Numeric → Cell
  | .int y => .int (Int.tdiv y 10 * 10)
  | .real y => .real ((y.divNat 10).mulNat 10)

/-- The century of a year that is no integer. -/
def centuryOfReal (y : Binary64) : Cell := .real (((y.addInt (-1)).divNat 100).addInt 1)

/-- The century of a year, counted from one; division rounds toward zero. The least integer, which
has none before it, is taken for a real number. -/
def centuryOf : Numeric → Cell
  | .int y =>
    if y == int64.low then centuryOfReal (Binary64.ofInt y) else .int (Int.tdiv (y - 1) 100 + 1)
  | .real y => centuryOfReal y

namespace Facet

def all : List Facet := [place, publisher, language, decade, century]

def name : Facet → String
  | place => "place"
  | publisher => "publisher"
  | language => "language"
  | decade => "decade"
  | century => "century"

/-- The table and the column that are counted. -/
def source : Facet → Table × String
  | place => (.imprints, "place_norm")
  | publisher => (.imprints, "publisher_norm")
  | language => (.languages, "code")
  | decade | century => (.imprints, "date_start")

/-- The value that is counted for a cell. -/
def label : Facet → Cell → Cell
  | place, c => c
  | publisher, c => c
  | language, c => c.folded
  | decade, c => .text ((decadeStart (number c)).asText.text?.getD "" ++ "s")
  | century, c => (centuryOf (number c)).asText

/-- The values that listed records have, each with its record. -/
def pairs (f : Facet) (ix : Index) (keys : List String) : List (Cell × Cell) :=
  let listed := ix.records.filter fun r => keys.any fun k => r.key == .text k
  listed.flatMap fun r =>
    ((rowsOf ix r f.source.1).filter fun row => !(row.cell f.source.2).isNull).map fun row =>
      (.int r.id, f.label (row.cell f.source.2))

/-- The most frequent values of the listed records. -/
def buckets? (f : Facet) (ix : Index) (keys : List String) (limit : Nat) : Option (List Bucket) :=
  if ix.has .records && ix.has (.table f.source.1) then top? limit (f.pairs ix keys) else none

end Facet

/-- The buckets of every facet. -/
structure FacetCounts where
  place : List Bucket
  publisher : List Bucket
  language : List Bucket
  decade : List Bucket
  century : List Bucket
  deriving DecidableEq, Repr

namespace FacetCounts

def empty : FacetCounts := ⟨[], [], [], [], []⟩

/-- The buckets of a facet. -/
def get (c : FacetCounts) : Facet → List Bucket
  | .place => c.place
  | .publisher => c.publisher
  | .language => c.language
  | .decade => c.decade
  | .century => c.century

def toJson (c : FacetCounts) : Json :=
  .obj (Facet.all.map fun f => (f.name, .arr ((c.get f).map Bucket.toJson)))

end FacetCounts

/-- The facets of the records with the listed keys. Nothing is looked up for an empty list. -/
def facets? (ix : Index) (keys : List String) (limit : Nat) : Option FacetCounts :=
  if keys.isEmpty then some .empty
  else do
    return ⟨← Facet.place.buckets? ix keys limit, ← Facet.publisher.buckets? ix keys limit,
      ← Facet.language.buckets? ix keys limit, ← Facet.decade.buckets? ix keys limit,
      ← Facet.century.buckets? ix keys limit⟩

/-! ### Subject headings -/

/-- The most frequent subject headings of the index. -/
def subjectHints? (ix : Index) (limit : Nat) : Option (List SubjectHint) := do
  if !ix.has (.table .subjects) then none
  let buckets ← top? limit (ix.subjects.map fun row => (row.cell "record_id", row.cell "value"))
  return buckets.map fun b => ⟨b.value, b.count⟩

end Catalogue.Index
