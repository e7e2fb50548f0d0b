/-! Entries under text keys, in ascending order of the keys. There is at most one
entry for a key: a later one takes the place of an earlier one. -/
namespace Catalogue

/-- Values under text keys. -/
abbrev Entries (α : Type) := List (String × α)

namespace Entries

variable {α : Type}

/-- Puts an entry among entries with ascending keys, in place of one with its key. -/
def insert (key : String) (value : α) : Entries α → Entries α
  | [] => [(key, value)]
  | (k, v) :: rest =>
    if key < k then (key, value) :: (k, v) :: rest
    else if key = k then (key, value) :: rest
    else (k, v) :: insert key value rest

/-- Entries in ascending order of their keys, the last of several with one key. -/
def sorted (entries : Entries α) : Entries α :=
  entries.foldl (fun done e => insert e.1 e.2 done) []

/-- The value of the first entry with a key. -/
def get? (key : String) (entries : Entries α) : Option α :=
  (entries.find? (·.1 == key)).map (·.2)

end Entries
end Catalogue
