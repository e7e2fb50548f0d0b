import Catalogue.Json.Basic
import Catalogue.Text.Quoted

/-! Written JSON: compact, and laid out over lines with an indentation of two.
Keys are written in the order of the entries. -/
namespace Catalogue.Json

open Number (Binary64 intText)

/-! ### Scalars -/

/-- How a character is written inside a string. -/
def escapedChar (c : Char) : List Char :=
  if c = '"' then ['\\', '"']
  else if c = '\\' then ['\\', '\\']
  else if c = '\x08' then ['\\', 'b']
  else if c = '\x0c' then ['\\', 'f']
  else if c = '\n' then ['\\', 'n']
  else if c = '\r' then ['\\', 'r']
  else if c = '\t' then ['\\', 't']
  else if c.toNat < 0x20 then
    ['\\', 'u', '0', '0', Nat.digitChar (c.toNat / 16), Nat.digitChar (c.toNat % 16)]
  else [c]

/-- A string between quotes. -/
def stringText (s : String) : List Char := ['"'] ++ s.toList.flatMap escapedChar ++ ['"']

/-- The three literals. -/
def nullText : List Char := ['n', 'u', 'l', 'l']
def boolText (b : Bool) : List Char :=
  if b then ['t', 'r', 'u', 'e'] else ['f', 'a', 'l', 's', 'e']

/-! ### Compact -/

mutual

/-- A value without any white space. -/
def compactChars : Json → List Char
  | null => nullText
  | bool b => boolText b
  | int n => intText n
  | float x => x.interchangeText
  | str s => stringText s
  | arr items => ['['] ++ compactItems items ++ [']']
  | obj entries => ['\x7b'] ++ compactEntries entries ++ ['\x7d']

/-- Items with a comma between neighbours. -/
def compactItems : List Json → List Char
  | [] => []
  | [v] => compactChars v
  | v :: rest => compactChars v ++ [','] ++ compactItems rest

/-- Entries with a comma between neighbours. -/
def compactEntries : List (String × Json) → List Char
  | [] => []
  | [(k, v)] => stringText k ++ [':'] ++ compactChars v
  | (k, v) :: rest => stringText k ++ [':'] ++ compactChars v ++ [','] ++ compactEntries rest

end

/-- A value as compact text. -/
def compact (v : Json) : String := String.ofList (compactChars v)

/-! ### Over lines -/

/-- A new line at a depth. -/
def newLine (depth : Nat) : List Char := '\n' :: List.replicate (2 * depth) ' '

mutual

/-- A value over lines; it starts at a depth. -/
def prettyChars (depth : Nat) : Json → List Char
  | arr [] => ['[', ']']
  | arr items => ['['] ++ prettyItems (depth + 1) items ++ newLine depth ++ [']']
  | obj [] => ['\x7b', '\x7d']
  | obj entries => ['\x7b'] ++ prettyEntries (depth + 1) entries ++ newLine depth ++ ['\x7d']
  | v => compactChars v

/-- Each item on a line of its own. -/
def prettyItems (depth : Nat) : List Json → List Char
  | [] => []
  | [v] => newLine depth ++ prettyChars depth v
  | v :: rest => newLine depth ++ prettyChars depth v ++ [','] ++ prettyItems depth rest

/-- Each entry on a line of its own. -/
def prettyEntries (depth : Nat) : List (String × Json) → List Char
  | [] => []
  | [(k, v)] => newLine depth ++ stringText k ++ [':', ' '] ++ prettyChars depth v
  | (k, v) :: rest =>
    newLine depth ++ stringText k ++ [':', ' '] ++ prettyChars depth v ++ [','] ++ prettyEntries depth rest

end

/-- A value over lines. -/
def pretty (v : Json) : String := String.ofList (prettyChars 0 v)

/-! ### Canonical form -/

mutual

/-- The value with the keys of every object in ascending order. -/
def sortKeys : Json → Json
  | arr items => arr (sortKeysItems items)
  | obj entries => obj (Entries.sorted (sortKeysEntries entries))
  | v => v

def sortKeysItems : List Json → List Json
  | [] => []
  | v :: rest => sortKeys v :: sortKeysItems rest

def sortKeysEntries : List (String × Json) → List (String × Json)
  | [] => []
  | (k, v) :: rest => (k, sortKeys v) :: sortKeysEntries rest

end

/-- The compact text of a value with the keys of every object in ascending order. -/
def canonical (v : Json) : String := compact (sortKeys v)

end Catalogue.Json
