import Catalogue.Web.Host

/-! Addresses on the web. Parsing brings an address into its normal form: scheme
and host in lower case, the default port left out, dot segments resolved, and
characters that may not stand in it percent-encoded. -/
namespace Catalogue.Web

/-! ### Schemes -/

/-- Schemes whose addresses name a host and a port, with the port that goes without saying. -/
def defaultPorts : List (String × Nat) :=
  [("http", 80), ("https", 443), ("ws", 80), ("wss", 443), ("ftp", 21)]

/-- What the part after the scheme looks like: a host with a port and a path, a file's path, or
something of the scheme's own. -/
inductive SchemeKind where
  | network
  | file
  | other
  deriving DecidableEq, Repr

def SchemeKind.of (scheme : String) : SchemeKind :=
  if defaultPorts.any (·.1 == scheme) then network else if scheme == "file" then file else other

/-- Whether a character separates segments. -/
def SchemeKind.slash (kind : SchemeKind) (c : Char) : Bool :=
  c == '/' || (kind != other && c == '\\')

/-! ### Addresses -/

/-- Who asks whom: what stands between the two slashes and the path. All texts are escaped. -/
structure Authority where
  user : List Char
  password : Option (List Char)
  host : Option Host
  port : Option Nat
  deriving DecidableEq, Repr

/-- An address in its normal form. -/
structure Url where
  scheme : String
  authority : Option Authority
  path : List Char
  query : Option (List Char)
  fragment : Option (List Char)
  deriving DecidableEq, Repr

namespace Authority

/-- Host and port. -/
def place (a : Authority) : List Char :=
  ((a.host.map Host.text).getD []) ++ match a.port with
    | some n => ':' :: Nat.toDigits 10 n
    | none => []

/-- User and password before the place. -/
def text (a : Authority) : List Char :=
  let password := match a.password with
    | some p => ':' :: p
    | none => []
  let user := a.user ++ password
  (if user.isEmpty then [] else user ++ ['@']) ++ a.place

end Authority

namespace Url

/-! ### Writing -/

/-- The host, if the address has one. -/
def host? (u : Url) : Option Host := u.authority.bind Authority.host

/-- Host and port. -/
def place (u : Url) : String := String.ofList ((u.authority.map Authority.place).getD [])

/-- Path and query, as a request names them. -/
def target (u : Url) : String :=
  String.ofList (u.path ++ match u.query with
    | some q => '?' :: q
    | none => [])

/-- The whole address. A path that begins with two slashes is kept apart from a host by a dot. -/
def text (u : Url) : String :=
  let start := match u.authority with
    | some a => "//" ++ String.ofList a.text
    | none => if ['/', '/'].isPrefixOf u.path then "/." else ""
  u.scheme ++ ":" ++ start ++ u.target ++ match u.fragment with
    | some f => "#" ++ String.ofList f
    | none => ""

/-! ### Users -/

/-- User and password, if there are any and they are texts. -/
def credentials? (u : Url) : Option (String × Option String) := do
  let a ← u.authority
  let user ← unescaped? a.user
  let password := a.password.bind unescaped?
  if user.isEmpty && password.isNone then none
  else return (String.ofList user, password.map String.ofList)

/-- The address without user and password. -/
def withoutUser (u : Url) : Url :=
  { u with authority := u.authority.map fun a => { a with user := [], password := none } }

/-! ### Paths -/

/-- Whether a segment stands for its own level (one dot) or the level above (two). -/
def dots (segment : List Char) : Nat :=
  let s := String.ofList (segment.map Char.toLower)
  if s == "." || s == "%2e" then 1
  else if ["..", ".%2e", "%2e.", "%2e%2e"].contains s then 2 else 0

/-- The segments of a path in reverse, after one more segment. -/
def pushSegment (path : List (List Char)) (segment : List Char) (last : Bool) : List (List Char) :=
  match dots segment with
  | 1 => if last then [] :: path else path
  | 2 => if last then [] :: path.drop 1 else path.drop 1
  | _ => escape pathSet segment :: path

/-- The segments of a path in reverse, after more segments. -/
def pushSegments (path : List (List Char)) : List (List Char) → List (List Char)
  | [] => path
  | [s] => pushSegment path s true
  | s :: rest => pushSegments (pushSegment path s false) rest

/-- The normal form of a path. The path of a file has one slash at its start. -/
def normalPath (kind : SchemeKind) (s : List Char) : List Char :=
  let plain := s.map fun c => if kind.slash c then '/' else c
  let segments := (if plain.head? == some '/' then plain.drop 1 else plain).splitOn '/'
  let path := (pushSegments [] segments).reverse.flatMap ('/' :: ·)
  if kind = .file then '/' :: path.dropWhile (· == '/') else path

/-! ### Hosts and users -/

/-- A text up to the first of some characters, and from there on. -/
def breakAt (stops : Char → Bool) (s : List Char) : List Char × List Char :=
  s.span fun c => !stops c

/-- A text up to the first colon that is not within brackets, and from there on. -/
def breakAtColon (inside : Bool) : List Char → List Char × List Char
  | [] => ([], [])
  | c :: rest =>
    if c = ':' && !inside then ([], c :: rest)
    else
      let (before, after) := breakAtColon (c == '[' || (inside && c != ']')) rest
      (c :: before, after)

/-- The port of a scheme from its digits: nothing if there are none or it goes without saying. -/
def port? (scheme : String) (digits : List Char) : Option (Option Nat) := do
  let n ← Number.ofDigits? 10 digits
  if 65535 < n then none
  else return if digits.isEmpty || defaultPorts.contains (scheme, n) then none else some n

/-- User and password from what stands before the last at sign. An empty password is none. -/
def userAndPassword (s : List Char) : List Char × Option (List Char) :=
  let (user, rest) := breakAt (· == ':') s
  (escape userSet user, if rest.length ≤ 1 then none else some (escape userSet (rest.drop 1)))

/-- What stands before the last at sign, if there is one, and what after it. -/
def splitUser (s : List Char) : Option (List Char) × List Char :=
  match (s.splitOn '@').reverse with
  | place :: user :: users => (some (['@'].intercalate (user :: users).reverse), place)
  | _ => (none, s)

/-- The authority of a text, and the path that follows it. Only the addresses of schemes of their
own do without a host, and then without anything else. -/
def authority? (scheme : String) (s : List Char) : Option (Authority × List Char) := do
  let kind := SchemeKind.of scheme
  let (all, path) := breakAt kind.slash s
  let (users, rest) := splitUser all
  let (user, password) := userAndPassword (users.getD [])
  let (name, portAndMore) := breakAtColon false rest
  let (digits, more) := (portAndMore.drop 1).span Char.isDigit
  let endsWell := more.isEmpty || (kind = .other && more.head? = some '\\')
  if name.isEmpty && (kind != .other || users.isSome || !portAndMore.isEmpty) then none
  else if !endsWell then none
  else
    let host ← if name.isEmpty then some none else (Host.parse? (kind != .other) name).map some
    let port ← port? scheme digits
    return (⟨user, password, host, port⟩, more ++ path)

/-- The host of a file's address, and the path that follows it. The computer itself is no host. -/
def fileHost? (s : List Char) : Option (Option Host × List Char) := do
  let (name, path) := breakAt SchemeKind.file.slash s
  if name.isEmpty then return (none, path)
  else
    let host ← Host.parse? true name
    return (if host = .name "localhost".toList then none else some host, path)

/-! ### Reading -/

/-- The authority and the path of an address, in their normal form. -/
def parseHierarchy (scheme : String) (s : List Char) : Option (Option Authority × List Char) :=
  let kind := SchemeKind.of scheme
  match kind with
  | .network => do
    let (authority, path) ← authority? scheme (s.dropWhile kind.slash)
    return (some authority, normalPath kind path)
  | .file => do
    let (host, path) ← if (s.take 2).length = 2 && (s.take 2).all kind.slash then fileHost? (s.drop 2)
      else some (none, s)
    return (some ⟨[], none, host, none⟩, normalPath kind path)
  | .other =>
    match s with
    | '/' :: '/' :: rest => do
      let (authority, path) ← authority? scheme rest
      return (some authority, if path.isEmpty then [] else normalPath kind path)
    | '/' :: rest => some (none, normalPath kind ('/' :: rest))
    | path => some (none, escape [] path)

/-- The part of an address after its scheme. -/
def parseRest (scheme : String) (s : List Char) : Option Url := do
  let (beforeFragment, fragment) := breakAt (· == '#') s
  let (hierarchy, query) := breakAt (· == '?') beforeFragment
  let (authority, path) ← parseHierarchy scheme hierarchy
  let querySet := if SchemeKind.of scheme = .other then querySet else '\'' :: querySet
  return { scheme, authority, path
           query := if query.isEmpty then none else some (escape querySet (query.drop 1))
           fragment := if fragment.isEmpty then none else some (escape fragmentSet (fragment.drop 1)) }

/-- The address that a text gives. -/
def parse? (s : String) : Option Url :=
  let isEdge (c : Char) : Bool := c.toNat ≤ 0x20
  let chars := ((s.toList.dropWhile isEdge).reverse.dropWhile isEdge).reverse
  let chars := chars.filter fun c => c != '\t' && c != '\n' && c != '\r'
  let (scheme, rest) := breakAt (· == ':') chars
  let valid := scheme.head?.any Char.isAlpha &&
    scheme.all fun c => c.isAlphanum || c == '+' || c == '-' || c == '.'
  if valid && !rest.isEmpty then parseRest (String.ofList (scheme.map Char.toLower)) (rest.drop 1)
  else none

end Url
end Catalogue.Web
