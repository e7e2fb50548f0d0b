import Catalogue.Plan.Basic
import Catalogue.Text.Utf8
import Catalogue.Time.Timestamp

/-! The compile cache: plans by the exact text of their questions, kept in a file
of lines that only grows. Opening reads the lines in order, and the first entry
for a text stays; a line that is no entry is passed over. Adding an entry writes
one line and then makes it visible, unless the text already has an entry. -/
namespace Catalogue

open Json

/-- A plan that was compiled for a text. -/
structure CacheEntry where
  queryText : String
  plan : Plan
  model : String
  timestamp : Timestamp

namespace CacheEntry

/-- The entry as JSON. -/
def toJson (e : CacheEntry) : Json :=
  .obj [("query_text", .str e.queryText), ("plan", e.plan.toJson), ("model", .str e.model),
    ("timestamp", .str (e.timestamp.text "Z"))]

/-- Reads one field of an entry. -/
def readField (e : CacheEntry) (name : String) (src : Source) (d : Document) :
    Except DecodeError CacheEntry :=
  match name with
  | "query_text" => return { e with queryText := ← readString src d }
  | "plan" => return { e with plan := ← Plan.read src d }
  | "model" => return { e with model := ← readString src d }
  | _ => do
    match Timestamp.parse? (← readString src d) with
    | some t => return { e with timestamp := t }
    | none => throw (.content (.refused "not a point in time"))

def shape : RecordShape CacheEntry where
  name := "CacheEntry"
  fields := ["query_text", "plan", "model", "timestamp"]
  required := ["query_text", "plan", "model", "timestamp"]
  empty := ⟨"", Plan.ofText "", "", default⟩
  readField := readField

/-- The entry that a line of bytes holds. -/
def ofLine? (line : List UInt8) : Option CacheEntry := do
  (decode shape.read (← Text.Utf8.text? line)).toOption

/-- The line of an entry, with its line feed. -/
def line (e : CacheEntry) : List UInt8 := Text.Utf8.encode e.toJson.compact ++ [10]

end CacheEntry

/-- The file's bytes and the entries that can be looked up. -/
structure Cache where
  file : List UInt8
  entries : List (String × CacheEntry)

namespace Cache

/-- A line that ends at a line feed, given last byte first: a carriage return at its end is left out. -/
def endLine : List UInt8 → List UInt8
  | 13 :: line => line.reverse
  | line => line.reverse

/-- The lines of a text that continues a line of which `line` is read, last byte first. -/
def linesFrom (line : List UInt8) : List UInt8 → List (List UInt8)
  | [] => if line.isEmpty then [] else [line.reverse]
  | b :: rest => if b = 10 then endLine line :: linesFrom [] rest else linesFrom (b :: line) rest

/-- The lines of a file. The last may lack its line feed. -/
def lines (file : List UInt8) : List (List UInt8) := linesFrom [] file

/-- Adds an entry, unless its text has one. -/
def remember (entries : List (String × CacheEntry)) (e : CacheEntry) : List (String × CacheEntry) :=
  if entries.any (·.1 == e.queryText) then entries else entries ++ [(e.queryText, e)]

/-- The cache of a file. -/
def openFile (file : List UInt8) : Cache :=
  ⟨file, ((lines file).filterMap CacheEntry.ofLine?).foldl remember []⟩

/-- The entry for a text. -/
def get? (c : Cache) (queryText : String) : Option CacheEntry :=
  (c.entries.find? (·.1 == queryText)).map (·.2)

/-- The number of texts that have an entry. -/
def size (c : Cache) : Nat := c.entries.length

/-- The circumstances of an attempt to add to the file. -/
structure Writing where
  now : Timestamp
  /-- Nothing can be written. -/
  fails : Bool

/-- Adds a plan for a text; nothing if the file cannot be written. -/
def put? (c : Cache) (w : Writing) (queryText : String) (plan : Plan) (model : String) :
    Option Cache :=
  let e : CacheEntry := ⟨queryText, plan, model, w.now⟩
  if w.fails then none else some ⟨c.file ++ e.line, remember c.entries e⟩

end Cache
end Catalogue
