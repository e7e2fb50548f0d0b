import Catalogue.Service.Settings

/-! The command line. Options may stand before or after the command's words, with
their value behind an equals sign or in the next argument; after `--` there are
words only. -/
namespace Catalogue.Terminal

/-! ### Commands -/

/-- A question and the greatest number of results that are wanted. -/
structure Inquiry where
  text : String
  limit : Option Nat
  deriving DecidableEq, Repr

inductive Command where
  /-- Answers a question. -/
  | query (q : Inquiry) (facets showSql json : Bool)
  /-- Shows the plan of a question. -/
  | compile (q : Inquiry) (json : Bool)
  /-- Shows the statement of a question. -/
  | sql (q : Inquiry)
  /-- Shows the schema of plans. -/
  | schema
  deriving DecidableEq, Repr

/-- A command, and what is set for it in place of the environment's settings. -/
structure Invocation where
  indexPath : Option String
  backend : Option Backend
  command : Command
  deriving DecidableEq, Repr

/-- Why there is nothing to run. -/
inductive Refusal where
  | help
  | version
  | badUsage (detail : String)
  deriving DecidableEq, Repr

/-! ### Options -/

inductive Verb where
  | query | compile | sql | schema
  deriving DecidableEq, Repr

namespace Verb

def all : List Verb := [query, compile, sql, schema]

def name : Verb → String
  | query => "query"
  | compile => "compile"
  | sql => "sql"
  | schema => "schema"

/-- The command of a name. -/
def ofName? (s : String) : Option Verb := all.find? (·.name == s)

/-- Whether the command asks a question. -/
def asks : Verb → Bool
  | schema => false
  | query | compile | sql => true

/-- The switches of the command. -/
def switches : Verb → List String
  | query => ["facets", "show-sql", "json"]
  | compile => ["json"]
  | sql | schema => []

/-- The options with a value that the command has of its own. -/
def valued : Verb → List String
  | schema => []
  | query | compile | sql => ["limit"]

end Verb

/-- What has been read on one level of the command line: before the command, or after it. -/
structure Level where
  verb : Option Verb
  words : List String
  /-- Options with their values, and switches, which have an empty one. -/
  options : List (String × String)
  /-- What is wrong with the last value, if that stands in an argument of its own. It is reported
  when more is read on the level. -/
  fault : Option Refusal
  deriving DecidableEq, Repr

namespace Level

def start (verb : Option Verb) : Level := ⟨verb, [], [], none⟩

/-- Options with a value. -/
def valued (l : Level) : List String := ["index", "compiler"] ++ (l.verb.map Verb.valued).getD []

/-- Switches. -/
def switches (l : Level) : List String := (l.verb.map Verb.switches).getD []

/-- Whether an option may have the value. -/
def validValue (name value : String) : Bool :=
  match name with
  | "limit" => (Number.parseNat64? value).isSome
  | "compiler" => (Backend.parse value).toBool
  | _ => !value.isEmpty

/-- The level with one more option. Each may be given once, with a valid value. -/
def give (l : Level) (name value : String) : Except Refusal Level :=
  if l.options.any (·.1 == name) then .error (.badUsage ("--" ++ name ++ " is given twice"))
  else if l.switches.contains name || validValue name value then
    .ok { l with options := l.options ++ [(name, value)] }
  else .error (.badUsage ("invalid value for --" ++ name))

/-- The level with one more option, whose value stands in the next argument. -/
def giveNext (l : Level) (name value : String) : Level :=
  match l.give name value with
  | .ok l => l
  | .error e => { l with fault := some e }

/-- The level, if nothing is wrong with its last value. -/
def settled (l : Level) : Except Refusal Level :=
  match l.fault with
  | some e => .error e
  | none => .ok l

/-- The value of an option. -/
def value? (l : Level) (name : String) : Option String :=
  (l.options.find? (·.1 == name)).map (·.2)

/-- Whether a switch is given. -/
def has (l : Level) (name : String) : Bool := l.options.any (·.1 == name)

/-- The level with one more word, if its command takes words. -/
def word (l : Level) (w : String) : Except Refusal Level :=
  if (l.verb.map Verb.asks).getD false then .ok { l with words := l.words ++ [w] }
  else .error (.badUsage ("unexpected argument " ++ w))

end Level

/-! ### Reading -/

/-- The letters after a single hyphen. -/
def readLetters (topLevel : Bool) : List Char → Except Refusal Unit
  | [] => .ok ()
  | 'v' :: rest => readLetters topLevel rest
  | 'h' :: _ => .error .help
  | 'V' :: _ => if topLevel then .error .version else .error (.badUsage "unknown option -V")
  | c :: _ => .error (.badUsage ("unknown option -" ++ String.singleton c))

/-- What an argument looks like. -/
inductive Shape where
  | long (name : String) (value : Option String)
  | letters (cs : List Char)
  | escape
  | word
  deriving DecidableEq, Repr

/-- The shape of an argument. A single hyphen is a word. -/
def shape (argument : String) : Shape :=
  match argument.toList with
  | ['-', '-'] => .escape
  | '-' :: '-' :: rest =>
    let name := rest.takeWhile (· ≠ '=')
    .long (String.ofList name)
      (if name.length < rest.length then some (String.ofList (rest.drop (name.length + 1))) else none)
  | '-' :: c :: rest => .letters (c :: rest)
  | _ => .word

/-- Whether an argument can be the value of the option before it. -/
def isValue (argument : String) : Bool := shape argument = .word

/-- Help on what comes after the word `help`: nothing, or the name of a command. -/
def readHelp : List String → Refusal
  | [] => .help
  | name :: rest =>
    if rest.isEmpty && (name = "help" || (Verb.ofName? name).isSome) then .help
    else .badUsage ("unknown command " ++ name)

/-- Reads the arguments of a level. Before the command this ends at the command, whose arguments
are left. -/
def readLevel (l : Level) : List String → Except Refusal (Level × Option (Verb × List String))
  | [] => .ok (l, none)
  | a :: rest =>
    match shape a, l.verb with
    | .word, none =>
      if a = "help" then .error (readHelp rest)
      else
        match Verb.ofName? a with
        | some verb => .ok (l, some (verb, rest))
        | none => .error (.badUsage ("unknown command " ++ a))
    | .word, some _ => do readLevel (← (← l.settled).word a) rest
    | .escape, _ => do return (← rest.foldlM Level.word (← l.settled), none)
    | .letters cs, _ => do
      let l ← l.settled
      readLetters l.verb.isNone cs
      readLevel l rest
    | .long name none, _ => do
      let l ← l.settled
      if name = "help" then .error .help
      else if name = "version" && l.verb.isNone then .error .version
      else if name = "verbose" then readLevel l rest
      else if l.switches.contains name then do readLevel (← l.give name "") rest
      else if l.valued.contains name then
        match rest with
        | v :: more =>
          if isValue v then readLevel (l.giveNext name v) more
          else .error (.badUsage ("--" ++ name ++ " needs a value"))
        | [] => .error (.badUsage ("--" ++ name ++ " needs a value"))
      else .error (.badUsage ("unknown option --" ++ name))
    | .long name (some v), _ => do
      let l ← l.settled
      if l.valued.contains name then do readLevel (← l.give name v) rest
      else .error (.badUsage ("unexpected value for --" ++ name))

/-- The command of a level. -/
def commandOf (verb : Verb) (l : Level) : Except Refusal Command :=
  let q : Inquiry := ⟨" ".intercalate l.words, (l.value? "limit").bind Number.parseNat64?⟩
  if verb.asks && l.words.isEmpty then .error (.badUsage "a question is missing")
  else match verb with
    | .query => .ok (.query q (l.has "facets") (l.has "show-sql") (l.has "json"))
    | .compile => .ok (.compile q (l.has "json"))
    | .sql => .ok (.sql q)
    | .schema => .ok .schema

/-- The invocation that arguments spell. What is set after the command counts before what is set
in front of it, and a bad value just in front of the command is reported last. -/
def parseArguments (arguments : List String) : Except Refusal Invocation := do
  match ← readLevel (.start none) arguments with
  | (_, none) => throw (.badUsage "a command is missing")
  | (top, some (verb, rest)) =>
    let (l, _) ← readLevel (.start (some verb)) rest
    let command ← commandOf verb (← l.settled)
    let top ← top.settled
    let backend := ((l.value? "compiler").or (top.value? "compiler")).bind fun s =>
      (Backend.parse s).toOption
    return ⟨(l.value? "index").or (top.value? "index"), backend, command⟩

end Catalogue.Terminal
