import Catalogue.Json.Token

/-! The tree of a JSON text, up to its first fault. Items and entries are kept
in the order in which they are written, keys are not merged, and a list or
object that the fault cut short says so in `stop`. Whoever reads the tree from
left to right therefore meets the fault where a reader of the text would.

The parser is a machine with a stack: it takes one token at a time, and nesting
costs it no depth of its own. -/
namespace Catalogue.Json

/-- A JSON text as a tree. -/
inductive Document where
  | null
  | bool (b : Bool)
  | number (value : NumberContent)
  | string (text : StringContent)
  | list (items : List Document) (stop : Option Fault)
  | object (entries : List (StringContent × Document)) (stop : Option Fault)
  | broken (fault : Fault)
  deriving Inhabited

/-- The fault within a tree that one who skips the tree meets. -/
def Document.fault? : Document → Option Fault
  | .list _ stop | .object _ stop => stop
  | .broken f => some f
  | _ => none

/-! ### The machine -/

/-- A list or object that is being read, with what it holds so far, last first. An object is on the
stack only while a value is read, so it has the key of that value. -/
inductive Frame where
  | list (items : List Document)
  | object (entries : List (StringContent × Document)) (key : StringContent)

/-- What the machine is about to read. -/
inductive Stage where
  /-- A value. -/
  | value
  /-- The first item of a list, or its end. -/
  | firstItem
  /-- What follows a finished value. -/
  | after (v : Document)
  /-- The first key of an object, or its end. -/
  | firstKey
  /-- A key of an object that holds these entries. -/
  | nextKey (entries : List (StringContent × Document))
  /-- The colon after a key. -/
  | colon (entries : List (StringContent × Document)) (key : StringContent)

/-- The tree of a text that breaks off: the finished part of every open list and object. -/
def unwind (fault : Fault) : Document → List Frame → Document
  | inner, [] => inner
  | inner, .list items :: stack => unwind fault (.list (items.reverse ++ [inner]) (some fault)) stack
  | inner, .object entries key :: stack =>
    unwind fault (.object (entries.reverse ++ [(key, inner)]) (some fault)) stack

/-- The tree when a value is wanted and something else stands there. -/
def noValue (fault : Fault) (stack : List Frame) : Document := unwind fault (.broken fault) stack

/-- The tree when a list breaks off between its items. -/
def cutList (fault : Fault) (items : List Document) (stack : List Frame) : Document :=
  unwind fault (.list items.reverse (some fault)) stack

/-- The tree when an object breaks off between its entries. -/
def cutObject (fault : Fault) (entries : List (StringContent × Document)) (stack : List Frame) :
    Document :=
  unwind fault (.object entries.reverse (some fault)) stack

/-- The fault of a text that ends. -/
def endFault : Stage → List Frame → Document
  | .value, stack => noValue (.of .eofValue) stack
  | .firstItem, stack => cutList (.of .eofList) [] stack
  | .after v, [] => v
  | .after v, .list items :: stack => cutList (.of .eofList) (v :: items) stack
  | .after v, .object entries key :: stack => cutObject (.of .eofObject) ((key, v) :: entries) stack
  | .firstKey, stack => cutObject (.of .eofObject) [] stack
  | .nextKey entries, stack => cutObject ⟨.eofValue, .eofObject⟩ entries stack
  | .colon entries key, stack => noValue (.of .eofObject) (.object entries key :: stack)

/-- Where the machine goes on a token: on to the next token, or to a tree. The tree of a complete
value leaves the token unread. -/
inductive Move where
  | next (stage : Stage) (stack : List Frame)
  | stop (tree : Document) (complete : Bool)

/-- The move on a token where a value is wanted. `missing` is the fault if no value starts there. -/
def startValue (missing : Fault) (stack : List Frame) : Token → Move
  | .openList => .next .firstItem stack
  | .openObject => .next .firstKey stack
  | .null => .next (.after .null) stack
  | .bool b => .next (.after (.bool b)) stack
  | .number n => .next (.after (.number n)) stack
  | .string s => .next (.after (.string s)) stack
  | .broken f | .brokenString f => .stop (noValue f stack) false
  | .closeList | .closeObject | .comma | .colon | .stray => .stop (noValue missing stack) false

/-- The move on a token where a key is wanted. -/
def startKey (missing : Fault) (entries : List (StringContent × Document)) (stack : List Frame) :
    Token → Move
  | .string s => .next (.colon entries s) stack
  | .brokenString f => .stop (cutObject f entries stack) false
  | _ => .stop (cutObject missing entries stack) false

/-- One move of the machine. -/
def move (stage : Stage) (stack : List Frame) (t : Token) : Move :=
  match stage with
  | .value =>
    match stack, t with
    | .list items :: below, .closeList =>
      .stop (cutListAfterComma items below) false
    | _, t => startValue (.of .expectedValue) stack t
  | .firstItem =>
    match t with
    | .closeList => .next (.after (.list [] none)) stack
    | t => startValue (.of .expectedValue) (.list [] :: stack) t
  | .after v =>
    match stack with
    | [] => .stop v true
    | .list items :: below =>
      match t with
      | .comma => .next .value (.list (v :: items) :: below)
      | .closeList => .next (.after (.list (v :: items).reverse none)) below
      | _ => .stop (cutList (.of .expectedListEnd) (v :: items) below) false
    | .object entries key :: below =>
      match t with
      | .comma => .next (.nextKey ((key, v) :: entries)) below
      | .closeObject => .next (.after (.object ((key, v) :: entries).reverse none)) below
      | _ => .stop (cutObject (.of .expectedObjectEnd) ((key, v) :: entries) below) false
  | .firstKey =>
    match t with
    | .closeObject => .next (.after (.object [] none)) stack
    | t => startKey (.of .keyNotString) [] stack t
  | .nextKey entries =>
    match t with
    | .closeObject => .stop (cutObject ⟨.trailingComma, .keyNotString⟩ entries stack) false
    | t => startKey (.of .keyNotString) entries stack t
  | .colon entries key =>
    match t with
    | .colon => .next .value (.object entries key :: stack)
    | _ => .stop (noValue (.of .expectedColon) (.object entries key :: stack)) false
where
  /-- A comma before the end of a list. -/
  cutListAfterComma (items : List Document) (below : List Frame) : Document :=
    cutList ⟨.trailingComma, .expectedValue⟩ items below

/-- The tree that the tokens spell, and whether tokens are left after it. -/
def build : Stage → List Frame → List Token → Document × Bool
  | stage, stack, [] => (endFault stage stack, false)
  | stage, stack, t :: rest =>
    match move stage stack t with
    | .next stage' stack' => build stage' stack' rest
    | .stop tree complete => (tree, complete)

/-- The tree of a text, and whether anything follows a complete value. -/
def read (s : List Char) : Document × Bool := build .value [] (tokens s)

end Catalogue.Json
