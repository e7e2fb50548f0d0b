import Catalogue.Index.File
import Catalogue.Terminal.Run
import Std.Time.DateTime.Timestamp

/-! The command line program. Only here are files and the environment touched. There
is no connection to the web: whoever asks a language model learns that it cannot
be reached, unless its answer is cached. -/
namespace Catalogue.Terminal

open Text

/-- Variables that the program reads. -/
def variableNames : List String := [
  "BIBQUERY_INDEX_PATH", "BIBQUERY_COMPILER", "BIBQUERY_COMPILE_CACHE", "BIBQUERY_FACET_TOP_N",
  "BIBQUERY_SUBJECT_HINTS", "BIBQUERY_LLM_PROVIDER", "BIBQUERY_LLM_TIMEOUT_SECS",
  "BIBQUERY_LLM_MAX_OUTPUT_TOKENS", "BIBQUERY_LLM_JSON_REPAIR", "OPENAI_API_KEY", "OPENAI_MODEL",
  "OPENAI_BASE_URL", "ANTHROPIC_API_KEY", "ANTHROPIC_MODEL", "ANTHROPIC_BASE_URL",
  "ANTHROPIC_VERSION", "CLICOLOR_FORCE"]

/-- The variables that are set. -/
def readEnvironment : IO Environment := do
  let mut env : Environment := []
  for name in variableNames do
    match ← IO.getEnv name with
    | some value => env := env ++ [(name, value.toUTF8.toList)]
    | none => pure ()
  return env

/-- Opens an index. -/
def openIndexFile (path : String) : IO (Except ExecutionError Index) := do
  try
    let bytes ← IO.FS.readBinFile path
    return .ok (Index.ofText (Utf8.lossyText bytes.toList))
  catch
    | .noFileOrDirectory .. => return .error (.indexNotFound path)
    | e => return .error (.cannotOpen path (toString e))

/-- The directory that a path lies in, if it names one. -/
def directoryOf (path : String) : Option String :=
  match (path.splitOn "/").dropLast with
  | [] => none
  | parts => some (String.intercalate "/" parts)

/-- Opens a compile cache, which is created if there is none. -/
def openCacheFile (path : String) : IO (Except CacheError Cache) := do
  try
    match directoryOf path with
    | some directory => if !directory.isEmpty then IO.FS.createDirAll directory
    | none => pure ()
    IO.FS.withFile path .append fun _ => pure ()
    return .ok (Cache.openFile (← IO.FS.readBinFile path).toList)
  catch e => return .error ⟨path, toString e⟩

/-- Adds what a session wrote to the file of its cache. -/
def saveCache (path : String) (before : Nat) (cache : Cache) : IO Unit := do
  let added := cache.file.drop before
  if !added.isEmpty then
    IO.FS.withFile path .append fun file => file.write (ByteArray.mk added.toArray)

/-- The present moment. -/
def presentMoment : IO Timestamp := do
  let nanos := (← Std.Time.Timestamp.now).toNanosecondsSinceUnixEpoch.val
  return ⟨nanos / 1000000000, (nanos % 1000000000).toNat⟩

/-- The surroundings of the program. No request is delivered. -/
def terminalWorld (env : Environment) (opened : IO.Ref (List (String × Nat))) (now : Timestamp) :
    World IO Unit where
  environment := env
  openIndex := openIndexFile
  openCache := fun path => do
    let cache ← openCacheFile path
    match cache with
    | .ok c => opened.modify ((path, c.file.length) :: ·)
    | .error _ => pure ()
    return cache
  transport := fun _ => return none
  writing := ⟨now, false⟩
  generatedAt := now.text "Z"
  milliseconds := 0

end Catalogue.Terminal

open Catalogue Catalogue.Terminal in
def main (arguments : List String) : IO UInt32 := do
  let opened ← IO.mkRef []
  let (result, session) ← (terminalWorld (← readEnvironment) opened (← presentMoment)).run arguments ()
  match (← opened.get), session.bind (·.cache) with
  | (path, before) :: _, some cache => saveCache path before cache
  | _, _ => pure ()
  for line in result.output do IO.println line
  match result.error with
  | some message => IO.eprintln message
  | none => pure ()
  return result.exit.toUInt32
