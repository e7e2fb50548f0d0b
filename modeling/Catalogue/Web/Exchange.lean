import Catalogue.Json.Printer
import Catalogue.Text.Base64
import Catalogue.Text.Utf8
import Catalogue.Web.Url

/-! Posting JSON to an address and what comes back. A transport delivers requests;
whether a request can be made at all is decided before (`Post.prepare`). -/
namespace Catalogue.Web

/-! ### Requests -/

/-- JSON that is posted to an address. -/
structure Post where
  /-- The address as it is configured. -/
  address : String
  headers : List (String × String)
  body : Json

/-- A request that can be sent. -/
structure Request where
  url : Url
  headers : List (String × String)
  body : Json

/-- Why a request cannot be made. -/
inductive RequestError where
  | malformed
  | unusable (url : Url)
  deriving DecidableEq, Repr

def RequestError.message : RequestError → String
  | malformed => "builder error"
  | unusable url => "builder error for url (" ++ url.text ++ ")"

/-- Whether a header can have the value: it has no control characters but tabs. -/
def validHeader (value : String) : Bool :=
  value.toList.all fun c => c = '\t' || (0x20 ≤ c.toNat && c.toNat ≠ 0x7F)

/-- The header in which a user says who asks. -/
def userHeader (user : String) (password : Option String) : String × String :=
  ("authorization", "Basic " ++
    String.ofList (Text.base64 (Text.Utf8.encode (user ++ ":" ++ password.getD ""))))

/-- The longest address that can be asked, in bytes. -/
def maximalLength : Nat := 65534

/-- Whether an address can be asked: it is one of the web, not too long, and its host has no marks
that would end it. -/
def Url.isAskable (u : Url) : Bool :=
  (u.scheme == "http" || u.scheme == "https") && u.text.utf8ByteSize ≤ maximalLength &&
    !u.place.toList.any ['"', '\x60', '\x7b', '\x7d'].contains

/-- The request of a post. A user in the address becomes the first header. -/
def Post.prepare (p : Post) : Except RequestError Request :=
  match Url.parse? p.address with
  | none => .error .malformed
  | some full =>
    let (url, headers) := match full.credentials? with
      | some (user, password) => (full.withoutUser, userHeader user password :: p.headers)
      | none => (full, p.headers)
    if url.host?.isNone then .error (.unusable url)
    else if !headers.all fun h => validHeader h.2 then .error .malformed
    else if url.isAskable then .ok ⟨url, headers, p.body⟩
    else .error (.unusable url)

/-! ### Replies -/

/-- What a server answers. -/
structure Reply where
  status : Nat
  body : List UInt8
  /-- Whether the whole body arrived. -/
  complete : Bool
  deriving DecidableEq, Repr

namespace Reply

/-- Whether the reply ends the exchange. A status has three digits, and after one that only informs
another reply follows, unless it changes the protocol. -/
def isFinal (r : Reply) : Bool := r.status == 101 || (200 ≤ r.status && r.status ≤ 999)

/-- Whether the request succeeded. -/
def succeeded (r : Reply) : Bool := 200 ≤ r.status && r.status ≤ 299

/-- The bytes of the body, if they arrived. Some replies have none whatever is sent. -/
def content? (r : Reply) : Option (List UInt8) :=
  if r.status == 101 || r.status == 204 || r.status == 304 then some []
  else if r.complete then some r.body
  else none

/-- The body as text, without a mark of byte order; nothing if it did not arrive. -/
def text (r : Reply) : String :=
  let s := Text.Utf8.lossyText (r.content?.getD [])
  if s.toList.head? == some '\uFEFF' then String.ofList (s.toList.drop 1) else s

end Reply

/-- Sends a request; nothing if no reply comes. -/
abbrev Transport (σ : Type) := Request → StateM σ (Option Reply)

end Catalogue.Web
