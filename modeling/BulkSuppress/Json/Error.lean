import BulkSuppress.Reading.Mismatch

/-
  What can be wrong with a JSON text.
-/

namespace BulkSuppress.Json

/-- What is wrong at some place of a JSON text. -/
inductive Problem where
  | endInValue | endInList | endInObject | endInString
  | expectedColon | expectedListEnd | expectedObjectEnd | expectedIdentifier | expectedValue
  | invalidEscape | invalidNumber | numberOutOfRange | invalidText | controlCharacter
  | keyNotString | loneSurrogate | trailingComma | trailingCharacters | unfinishedSurrogate
  | mismatch (m : Mismatch)
  | duplicateField (name : String)
  /-- A list that stands for a record but is too short. -/
  | tooShort (length : Nat) (expected : String)
deriving DecidableEq, Repr

/-- The wording of a problem. -/
def Problem.message : Problem → String
  | .endInValue => "EOF while parsing a value"
  | .endInList => "EOF while parsing a list"
  | .endInObject => "EOF while parsing an object"
  | .endInString => "EOF while parsing a string"
  | .expectedColon => "expected `:`"
  | .expectedListEnd => "expected `,` or `]`"
  | .expectedObjectEnd => "expected `,` or `\x7d`"
  | .expectedIdentifier => "expected ident"
  | .expectedValue => "expected value"
  | .invalidEscape => "invalid escape"
  | .invalidNumber => "invalid number"
  | .numberOutOfRange => "number out of range"
  | .invalidText => "invalid unicode code point"
  | .controlCharacter => "control character (\\u0000-\\u001F) found while parsing a string"
  | .keyNotString => "key must be a string"
  | .loneSurrogate => "lone leading surrogate in hex escape"
  | .trailingComma => "trailing comma"
  | .trailingCharacters => "trailing characters"
  | .unfinishedSurrogate => "unexpected end of hex escape"
  | .mismatch m => m.message
  | .duplicateField name => "duplicate field `" ++ name ++ "`"
  | .tooShort length expected =>
    "invalid length " ++ toString length ++ ", expected " ++ expected

/-- A problem and its place. Columns count bytes. -/
structure Error where
  problem : Problem
  position : Position
deriving DecidableEq, Repr

/-- The wording of an error. -/
def Error.message (e : Error) : String :=
  e.problem.message ++ e.position.suffix

end BulkSuppress.Json
