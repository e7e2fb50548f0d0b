import Catalogue.Plan.Schema
import Catalogue.Terminal.Arguments
import Catalogue.Terminal.Render

/-! Running a command: what it prints, and how it exits. Files are reached through a
`World`; everything else is decided here. -/
namespace Catalogue.Terminal

/-- What a command prints, and the code it exits with. -/
structure CommandResult where
  exit : Nat
  output : List String
  error : Option String
  deriving DecidableEq, Repr

/-- The surroundings of a command. -/
structure World (m : Type → Type) (σ : Type) where
  environment : Environment
  openIndex : String → m (Except ExecutionError Index)
  openCache : String → m (Except CacheError Cache)
  transport : Web.Transport σ
  writing : Cache.Writing
  /-- The moment at which results are found, as they show it. -/
  generatedAt : String
  /-- How long that takes, as results show it. -/
  milliseconds : Nat

/-- Why a command failed. -/
inductive Failure where
  | settings (e : SettingError)
  | service (e : ServiceError)
  deriving DecidableEq, Repr

/-- What a failed command says. -/
def Failure.message : Failure → String
  | settings e => ": ".intercalate ("reading BIBQUERY_* configuration" :: e.chain)
  | service e => String.ofList (Text.trimEnd e.userMessage.toList)

/-- Whether output is colored. -/
def colored (env : Environment) : Bool :=
  match (env.value? "CLICOLOR_FORCE").bind Text.Utf8.text? with
  | some s => s != "0"
  | none => false

section

variable {m : Type → Type} [Monad m] {σ : Type} (w : World m σ)

/-- What an invocation works with. -/
structure Setup (σ : Type) where
  service : Service (Model.Session σ)
  cache : Option Cache
  indexPath : String

/-- The setup of an invocation. -/
def World.setUp (i : Invocation) : m (Except Failure (Setup σ)) := do
  match Settings.ofEnvironment w.environment with
  | .error e => return .error (.settings e)
  | .ok s =>
    let s := { s with
      indexPath := i.indexPath.getD s.indexPath
      backend := i.backend.getD s.backend }
    match ← Service.configure s w.environment w.transport w.writing w.openCache with
    | .error e => return .error (.service e)
    | .ok (service, cache) => return .ok ⟨service, cache, s.indexPath⟩

/-- What is printed in answer to a question. -/
def World.answerLines (service : Service (Model.Session σ)) (t : Theme) (showSql json : Bool)
    (r : QueryResult) : List String :=
  if json then (resultJson r w.generatedAt w.milliseconds).pretty.splitOn "\n"
  else t.resultLines r service.backend w.milliseconds showSql

/-- Something done with a plan: what it prints, and what it does to the session. -/
abbrev Work (m : Type → Type) (σ : Type) :=
  Setup σ → Plan → m (StateM (Model.Session σ) (Except ServiceError (List String)))

/-- Shows a plan. -/
def showPlan (t : Theme) (json : Bool) : Work m σ := fun setup p =>
  pure (pure (.ok (if json then p.pretty.splitOn "\n"
    else t.planHead setup.service.backend :: t.planLines p)))

/-- Shows the statement of a plan. -/
def showStatement (t : Theme) : Work m σ := fun _ p =>
  pure (pure (match Index.Statement.ofPlan p with
    | .ok s => .ok (t.statementLines s)
    | .error e => .error (.ofExecution (.unsupported e))))

/-- Runs a plan on the index and shows the result. -/
def World.showResult (t : Theme) (facets showSql json : Bool) : Work m σ := fun setup p => do
  let opened ← w.openIndex setup.indexPath
  return do
    return (← setup.service.runOpened opened p facets).map
      (w.answerLines setup.service t showSql json)

/-- Compiles a question and does something with its plan. -/
def World.ask (i : Invocation) (q : Inquiry) (work : Work m σ) (start : σ) :
    m (Except Failure (List String) × Model.Session σ) := do
  match ← w.setUp i with
  | .error e => return (.error e, ⟨start, none⟩)
  | .ok setup =>
    let (p, session) := setup.service.plan q.text q.limit ⟨start, setup.cache⟩
    match p with
    | .error e => return (.error (.service e), session)
    | .ok p =>
      let (lines, session) := (← work setup p) session
      return (lines.mapError .service, session)

/-- The lines that a command prints, and what remains of its session. -/
def World.lines (i : Invocation) (start : σ) :
    m (Except Failure (List String) × Model.Session σ) := do
  let t : Theme := ⟨colored w.environment⟩
  match i.command with
  | .schema => return (.ok (Schema.plan.pretty.splitOn "\n"), ⟨start, none⟩)
  | .query q facets showSql json => w.ask i q (w.showResult t facets showSql json) start
  | .compile q json => w.ask i q (showPlan t json) start
  | .sql q => w.ask i q (showStatement t) start

/-- Runs the command that arguments spell. -/
def World.run (arguments : List String) (start : σ) : m (CommandResult × Option (Model.Session σ)) := do
  match parseArguments arguments with
  | .error .help => return (⟨0, [], none⟩, none)
  | .error .version => return (⟨0, ["bibquery 0.1.0"], none⟩, none)
  | .error (.badUsage detail) => return (⟨2, [], some detail⟩, none)
  | .ok i =>
    let (result, session) ← w.lines i start
    match result with
    | .ok lines => return (⟨0, lines, none⟩, some session)
    | .error e =>
      let head := Style.boldRed.paint (colored w.environment) "error:"
      return (⟨1, [], some (head ++ " " ++ e.message)⟩, some session)

end
end Catalogue.Terminal
