/-!
# Faults of JSON texts

Why a text is not JSON, with the wording of each fault. A text that ends too early is told apart
from one that has something else in some place.
-/

namespace RLanguageHost.Json

/-- Why a text is not JSON. -/
inductive SyntaxError where
  /-- The text ends where a value is to start or to go on. -/
  | endInValue
  | endInString
  | endInList
  | endInObject
  /-- What is to be a value starts with something that no value starts with. -/
  | notValue
  /-- A word is none of those that stand for values. -/
  | notWord
  | notNumber
  /-- The magnitude of a number is too large for floating point. -/
  | numberTooLarge
  | badEscape
  /-- One half of a character beyond the basic plane stands alone, in the place of the other half.
  -/
  | loneHalf
  /-- The other half of a character beyond the basic plane is missing. -/
  | missingHalf
  /-- A control character stands in a string. -/
  | control
  | notListEnd
  | notObjectEnd
  | notColon
  | notKey
  | trailingComma
  | trailingText
  | tooDeep
  deriving Repr, DecidableEq, Inhabited

namespace SyntaxError

def isEarlyEnd : SyntaxError → Bool
  | .endInValue | .endInString | .endInList | .endInObject => true
  | _ => false

def message : SyntaxError → String
  | .endInValue => "EOF while parsing a value"
  | .endInString => "EOF while parsing a string"
  | .endInList => "EOF while parsing a list"
  | .endInObject => "EOF while parsing an object"
  | .notValue => "expected value"
  | .notWord => "expected ident"
  | .notNumber => "invalid number"
  | .numberTooLarge => "number out of range"
  | .badEscape => "invalid escape"
  | .loneHalf => "lone leading surrogate in hex escape"
  | .missingHalf => "unexpected end of hex escape"
  | .control => "control character (\\u0000-\\u001F) found while parsing a string"
  | .notListEnd => "expected `,` or `]`"
  | .notObjectEnd => "expected `,` or `\x7d`"
  | .notColon => "expected `:`"
  | .notKey => "key must be a string"
  | .trailingComma => "trailing comma"
  | .trailingText => "trailing characters"
  | .tooDeep => "recursion limit exceeded"

end SyntaxError

end RLanguageHost.Json
