import Catalogue.Model.Compiler
import Catalogue.Model.Vendor
import Catalogue.Web.Exchange

/-! Asking a vendor's model over the web: the request that a prompt becomes, the
answer in the reply, and what failures mean. -/
namespace Catalogue.Model

open Web (Post Reply Transport)

/-! ### Requests -/

/-- The instructions for a vendor that takes no schema besides them. -/
def instructionsWithSchema (r : Request) : String :=
  match r.schema with
  | none => r.system
  | some schema =>
    r.system ++ "\n\nRespond with a single JSON object matching this JSON schema:\n" ++ schema.canonical

/-- The body of a request. -/
def requestBody (c : Configuration) (r : Request) : Json :=
  match c.vendor with
  | .openai =>
    .object ([("model", .str c.model), ("instructions", .str r.system), ("input", .str r.prompt),
      ("max_output_tokens", .nat c.outputTokens)] ++
      match r.schema with
      | none => []
      | some schema => [("text", .object [("format", .object [("type", .str "json_schema"),
          ("name", .str "query_plan"), ("schema", schema), ("strict", .bool true)])])])
  | .anthropic =>
    .object [("model", .str c.model), ("max_tokens", .nat c.outputTokens), ("temperature", .int 0),
      ("system", .str (instructionsWithSchema r)),
      ("messages", .arr [.object [("role", .str "user"), ("content", .str r.prompt)]])]

/-- The address that a vendor's model is asked at. -/
def address (c : Configuration) : String :=
  c.address ++ match c.vendor with
    | .openai => "/v1/responses"
    | .anthropic => "/v1/messages"

/-- The request for a prompt, made with a key. -/
def post (c : Configuration) (key : String) (r : Request) : Post :=
  { address := address c
    headers := (match c.vendor with
      | .openai => [("authorization", "Bearer " ++ key)]
      | .anthropic => [("x-api-key", key), ("anthropic-version", c.interfaceVersion)]) ++
      [("content-type", "application/json")]
    body := requestBody c r }

/-! ### Answers -/

/-- Whether an object says that it is of a type. -/
def hasType (type : String) (v : Json) : Bool := ((v.get? "type").bind Json.str?) == some type

/-- The texts of those items of a list that are of a type. -/
def textsOfType (type : String) (items : List Json) : List String :=
  (items.filter (hasType type)).filterMap fun v => (v.get? "text").bind Json.str?

/-- Texts put together: a line feed stands between one and the next, unless nothing came before. -/
def joinTexts (texts : List String) : String :=
  texts.foldl (fun done s => if done.isEmpty then s else done ++ "\n" ++ s) ""

/-- The text of an answer, trimmed, if there is any. -/
def answerText? (texts : List String) : Option String :=
  let s := joinTexts texts
  if Text.isBlank s then none else some (Text.trim s)

/-- The answer in a vendor's reply. -/
def answer? (v : Vendor) (reply : Json) : Option String :=
  match v with
  | .openai => do
    let items ← (← reply.get? "output").arr?
    answerText? ((items.filter (hasType "message")).flatMap fun item =>
      textsOfType "output_text" (((item.get? "content").bind Json.arr?).getD []))
  | .anthropic => do answerText? (textsOfType "text" (← (← reply.get? "content").arr?))

/-- The error of a reply without an answer. -/
def noAnswer : Vendor → CompileError
  | .openai => .invalidResponse "openai: no output_text in response (unexpected response shape)"
  | .anthropic => .invalidResponse "anthropic: no text blocks in response (unexpected response shape)"

/-! ### Failures -/

/-- The error that a status means. -/
def statusError (v : Vendor) (status : Nat) (body : String) : CompileError :=
  let detail := "http " ++ toString status ++ ": " ++ Text.clip 300 body
  if status = 401 || status = 403 then .missingCredentials v.name v.keyVariable detail
  else if status = 408 || status = 429 || (500 ≤ status && status ≤ 599) then
    .rateLimitedOrTimeout v.name detail
  else .invalidResponse (v.name ++ ": " ++ detail)

/-- The error of a missing key. -/
def missingKey (v : Vendor) : CompileError :=
  .missingCredentials v.name v.keyVariable (v.keyVariable ++ " is not set")

/-- The error of a request that got no reply that ends the exchange. -/
def unreachable (v : Vendor) (p : Post) (url : Web.Url) : CompileError :=
  .rateLimitedOrTimeout v.name ("failed to reach " ++ p.address ++
    ": error sending request for url (" ++ url.text ++ ")")

/-- The JSON of a successful reply. -/
def replyJson (v : Vendor) (r : Reply) : Except CompileError Json :=
  let invalid : CompileError :=
    .invalidResponse (v.name ++ " returned invalid JSON: error decoding response body")
  match r.content?.bind Text.Utf8.text? with
  | none => .error invalid
  | some s => (Json.parse s).mapError fun _ => invalid

/-- The answer in a reply. -/
def readReply (v : Vendor) (r : Reply) : Except CompileError String :=
  if !r.succeeded then .error (statusError v r.status r.text)
  else do
    match answer? v (← replyJson v r) with
    | some s => return s
    | none => throw (noAnswer v)

/-! ### The provider -/

/-- Asks a vendor's model over a transport. -/
def complete {σ : Type} (c : Configuration) (transport : Transport σ) (r : Request) :
    StateM σ (Except CompileError String) := do
  match c.key with
  | none => return .error (missingKey c.vendor)
  | some key =>
    let p := post c key r
    match p.prepare with
    | .error e => return .error (.invalidResponse (c.vendor.name ++ ": " ++ e.message))
    | .ok request =>
      match (← transport request).filter Reply.isFinal with
      | none => return .error (unreachable c.vendor p request.url)
      | some reply => return readReply c.vendor reply

/-- The provider that a configuration describes. -/
def provider {σ : Type} (c : Configuration) (transport : Transport σ) : Provider σ :=
  ⟨c.vendor.name, c.model, complete c transport⟩

end Catalogue.Model
