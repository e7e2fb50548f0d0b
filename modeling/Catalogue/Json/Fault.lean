/-! What can be wrong with a JSON text. A text is read from left to right and
the first fault in it is reported; a part whose content does not matter is only
skipped over, and skipping may see a fault differently. -/
namespace Catalogue.Json

/-- Why a text is not JSON. -/
inductive SyntaxError where
  | eofValue | eofString | eofList | eofObject
  | expectedValue | expectedLiteral | expectedColon | expectedListEnd | expectedObjectEnd
  | trailingComma | trailingCharacters | keyNotString
  | invalidNumber | numberOutOfRange
  | invalidEscape | loneSurrogate | cutSurrogate | controlCharacter
  | nestedTooDeep
  deriving DecidableEq, Repr

namespace SyntaxError

/-- Whether the text ended too early. -/
def isEnd : SyntaxError → Bool
  | eofValue | eofString | eofList | eofObject => true
  | _ => false

def message : SyntaxError → String
  | eofValue => "EOF while parsing a value"
  | eofString => "EOF while parsing a string"
  | eofList => "EOF while parsing a list"
  | eofObject => "EOF while parsing an object"
  | expectedValue => "expected value"
  | expectedLiteral => "expected ident"
  | expectedColon => "expected `:`"
  | expectedListEnd => "expected `,` or `]`"
  | expectedObjectEnd => "expected `,` or `\x7d`"
  | trailingComma => "trailing comma"
  | trailingCharacters => "trailing characters"
  | keyNotString => "key must be a string"
  | invalidNumber => "invalid number"
  | numberOutOfRange => "number out of range"
  | invalidEscape => "invalid escape"
  | loneSurrogate => "lone leading surrogate in hex escape"
  | cutSurrogate => "unexpected end of hex escape"
  | controlCharacter => "control character (\\u0000-\\u001F) found while parsing a string"
  | nestedTooDeep => "recursion limit exceeded"

end SyntaxError

/-- A fault as it is reported by one who reads the part it is in, and by one who skips that part. -/
structure Fault where
  reading : SyntaxError
  skipping : SyntaxError
  deriving DecidableEq, Repr

/-- A fault that is seen alike by both. -/
def Fault.of (e : SyntaxError) : Fault := ⟨e, e⟩

end Catalogue.Json
