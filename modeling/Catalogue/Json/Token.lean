import Catalogue.Json.Fault
import Catalogue.Json.Basic
import Catalogue.Number.Base

/-! The tokens of a JSON text. Scanning stops at the first character that can
belong to no token: a token whose own text is faulty (`broken`, or
`brokenString` if it began with a quote) or any other character (`stray`).
A string with a surrogate that has no partner and a number too large to hold are
complete tokens: only their content is missing. -/
namespace Catalogue.Json

open Number (Binary64 Numeral digitsValue)

/-- A string's characters, or why they cannot be had. -/
abbrev StringContent := Except SyntaxError String

/-- A number's value (an integer or a float), or why it cannot be had. -/
abbrev NumberContent := Except SyntaxError Json

inductive Token where
  | openList | closeList | openObject | closeObject | comma | colon
  | null
  | bool (b : Bool)
  | number (value : NumberContent)
  | string (text : StringContent)
  | broken (fault : Fault)
  | brokenString (fault : Fault)
  | stray
  deriving Inhabited

/-- White space between tokens. -/
def isBlank (c : Char) : Bool := c == ' ' || c == '\n' || c == '\t' || c == '\r'

def isDigit (c : Char) : Bool := '0' ≤ c && c ≤ '9'

/-! ### Strings -/

/-- What a string is written with: characters, and code units given in hexadecimal. -/
inductive StringUnit where
  | char (c : Char)
  | code (n : Nat)
  deriving DecidableEq, Repr

/-- How the units of a string end. -/
inductive StringEnd where
  | closed
  | endOfText
  | control
  | badEscape
  | badHex
  deriving DecidableEq, Repr

/-- The fault of a string that does not end well. -/
def StringEnd.error : StringEnd → SyntaxError
  | closed | endOfText => .eofString
  | control => .controlCharacter
  | badEscape | badHex => .invalidEscape

/-- The number that four hexadecimal digits spell. -/
def hex4? (a b c d : Char) : Option Nat := Number.ofDigits? 16 [a, b, c, d]

/-- The character that a letter stands for after a backslash. -/
def shortEscape? (c : Char) : Option Char :=
  if c = '"' || c = '\\' || c = '/' then some c
  else if c = 'b' then some '\x08'
  else if c = 'f' then some '\x0c'
  else if c = 'n' then some '\n'
  else if c = 'r' then some '\r'
  else if c = 't' then some '\t'
  else none

/-- What follows a broken code unit: the text is too short for four digits, or they are none. -/
def codeEnd (rest : List Char) : StringEnd :=
  if (rest.foldl (fun n c => n + c.utf8Size) 0) < 4 then .endOfText else .badHex

/-- The units of a string up to its end, and the text after it. -/
def stringUnits : List Char → List StringUnit × StringEnd × List Char
  | [] => ([], .endOfText, [])
  | ['\\'] => ([], .endOfText, [])
  | '\\' :: 'u' :: a :: b :: c :: d :: rest =>
    match hex4? a b c d with
    | some n => let (us, e, r) := stringUnits rest; (.code n :: us, e, r)
    | none => ([], codeEnd (a :: b :: c :: d :: rest), [])
  | '\\' :: 'u' :: rest => ([], codeEnd rest, [])
  | '\\' :: c :: rest =>
    match shortEscape? c with
    | some x => let (us, e, r) := stringUnits rest; (.char x :: us, e, r)
    | none => ([], .badEscape, [])
  | c :: rest =>
    if c = '"' then ([], .closed, rest)
    else if c.toNat < 0x20 then ([], .control, [])
    else let (us, e, r) := stringUnits rest; (.char c :: us, e, r)

/-- The characters of a string's units: a high surrogate pairs with the low one that must follow. -/
def unitChars (ending : StringEnd) : List StringUnit → Except SyntaxError (List Char)
  | [] => if ending = .closed then .ok [] else .error ending.error
  | .char c :: rest => (unitChars ending rest).map (c :: ·)
  | .code hi :: rest =>
    if 0xDC00 ≤ hi && hi ≤ 0xDFFF then .error .loneSurrogate
    else if hi < 0xD800 || 0xDBFF < hi then (unitChars ending rest).map (Char.ofNat hi :: ·)
    else match rest with
      | .code lo :: rest =>
        if lo < 0xDC00 || 0xDFFF < lo then .error .loneSurrogate
        else (unitChars ending rest).map
          (Char.ofNat (0x10000 + (hi - 0xD800) * 0x400 + (lo - 0xDC00)) :: ·)
      | .char _ :: _ => .error .cutSurrogate
      | [] => match ending with
        | .endOfText => .error .eofString
        | .badHex => .error .invalidEscape
        | _ => .error .cutSurrogate

/-- The token of a string whose opening quote is read. -/
def stringToken (s : List Char) : Token × List Char :=
  let (units, ending, rest) := stringUnits s
  let content := (unitChars ending units).map String.ofList
  if ending = .closed then (.string content, rest)
  else
    let reading := match content with
      | .ok _ => ending.error
      | .error e => e
    (.brokenString ⟨reading, ending.error⟩, [])

/-! ### Numbers -/

/-- The digits at the start of a text, and the rest. -/
def takeDigits (s : List Char) : List Char × List Char := (s.takeWhile isDigit, s.dropWhile isDigit)

/-- A number that lacks a digit: reading notices the end of the text, skipping does not. -/
def missingDigit (rest : List Char) : Fault :=
  ⟨if rest.isEmpty then .eofValue else .invalidNumber, .invalidNumber⟩

/-- The value of a numeral: an integer if it has neither point nor exponent and fits 64 bits. Minus
zero is a float. -/
def numberValue (n : Numeral) : NumberContent :=
  let float : NumberContent :=
    let x := n.toBinary64
    if x.isFinite then .ok (.float x) else .error .numberOutOfRange
  match n.fraction, n.exponent with
  | none, none =>
    let v := digitsValue n.whole
    if n.negative then
      if v == 0 || !Number.int64.holds (-v) then float else .ok (.int (-v))
    else if Number.nat64.holds v then .ok (.int v) else float
  | _, _ => float

/-- The exponent of a numeral, if one follows. -/
def scanExponent (s : List Char) : Except Fault (Option Int × List Char) :=
  match s with
  | e :: rest =>
    if e = 'e' || e = 'E' then
      let (negative, rest) := match rest with
        | '+' :: r => (false, r)
        | '-' :: r => (true, r)
        | r => (false, r)
      let (ds, r) := takeDigits rest
      if ds.isEmpty then .error (missingDigit rest)
      else
        let v : Int := digitsValue ds
        .ok (some (if negative then -v else v), r)
    else .ok (none, s)
  | [] => .ok (none, s)

/-- The digits after a point, if one follows. -/
def scanFraction (s : List Char) : Except Fault (Option (List Char) × List Char) :=
  match s with
  | '.' :: rest =>
    let (ds, r) := takeDigits rest
    if ds.isEmpty then .error (missingDigit rest) else .ok (some ds, r)
  | _ => .ok (none, s)

/-- The numeral at the start of a text, after its sign. A numeral of several digits does not start
with zero. -/
def scanNumeral (negative : Bool) (s : List Char) : Except Fault (Numeral × List Char) := do
  let (whole, rest) := takeDigits s
  match whole with
  | [] => throw (missingDigit rest)
  | '0' :: _ :: _ => throw (.of .invalidNumber)
  | _ =>
    let (fraction, rest) ← scanFraction rest
    let (exponent, rest) ← scanExponent rest
    return (⟨negative, whole, fraction, exponent⟩, rest)

/-- The token of a number after its sign. -/
def numberToken (negative : Bool) (s : List Char) : Token × List Char :=
  match scanNumeral negative s with
  | .ok (n, rest) => (.number (numberValue n), rest)
  | .error f => (.broken f, [])

/-! ### Literals -/

/-- The token of a literal whose first letter is read; `expected` are its other letters. -/
def literalToken (token : Token) : List Char → List Char → Token × List Char
  | [], rest => (token, rest)
  | _ :: _, [] => (.broken (.of .eofValue), [])
  | e :: es, c :: rest =>
    if e = c then literalToken token es rest else (.broken (.of .expectedLiteral), [])

/-! ### Tokens -/

/-- The token that starts with a character, and the text after it. -/
def scan (c : Char) (rest : List Char) : Token × List Char :=
  if c = '[' then (.openList, rest)
  else if c = ']' then (.closeList, rest)
  else if c = '\x7b' then (.openObject, rest)
  else if c = '\x7d' then (.closeObject, rest)
  else if c = ',' then (.comma, rest)
  else if c = ':' then (.colon, rest)
  else if c = '"' then stringToken rest
  else if c = '-' then numberToken true rest
  else if isDigit c then numberToken false (c :: rest)
  else if c = 'n' then literalToken .null ['u', 'l', 'l'] rest
  else if c = 't' then literalToken (.bool true) ['r', 'u', 'e'] rest
  else if c = 'f' then literalToken (.bool false) ['a', 'l', 's', 'e'] rest
  else (.stray, [])

/-- The tokens of a text, of which at most `fuel` are scanned. -/
def scanAll : Nat → List Char → List Token
  | 0, _ => []
  | _ + 1, [] => []
  | fuel + 1, c :: rest =>
    if isBlank c then scanAll fuel rest
    else
      let (t, r) := scan c rest
      t :: scanAll fuel r

/-- The tokens of a text. A character yields at most one token. -/
def tokens (s : List Char) : List Token := scanAll s.length s

end Catalogue.Json
