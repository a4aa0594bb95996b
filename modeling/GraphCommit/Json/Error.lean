/-!
# Faults of a JSON text

Why a text is no JSON document.  Each cause has one message; where in the text it lies is not part
of it.
-/

namespace GraphCommit.Json

/-- Why a text is no JSON document. -/
inductive Error where
  | endInValue
  | endInObject
  | endInList
  | endInString
  | expectedColon
  | expectedCommaOrBrace
  | expectedCommaOrBracket
  | expectedWord
  | expectedValue
  | invalidEscape
  | invalidNumber
  | numberOutOfRange
  | loneSurrogate
  | endOfSurrogatePair
  | controlCharacter
  | keyNotAString
  | trailingComma
  | trailingCharacters
  deriving DecidableEq, Repr

def Error.message : Error → String
  | endInValue => "EOF while parsing a value"
  | endInObject => "EOF while parsing an object"
  | endInList => "EOF while parsing a list"
  | endInString => "EOF while parsing a string"
  | expectedColon => "expected `:`"
  | expectedCommaOrBrace => "expected `,` or `\x7d`"
  | expectedCommaOrBracket => "expected `,` or `]`"
  | expectedWord => "expected ident"
  | expectedValue => "expected value"
  | invalidEscape => "invalid escape"
  | invalidNumber => "invalid number"
  | numberOutOfRange => "number out of range"
  | loneSurrogate => "lone leading surrogate in hex escape"
  | endOfSurrogatePair => "unexpected end of hex escape"
  | controlCharacter => "control character (\\u0000-\\u001F) found while parsing a string"
  | keyNotAString => "key must be a string"
  | trailingComma => "trailing comma"
  | trailingCharacters => "trailing characters"

end GraphCommit.Json
