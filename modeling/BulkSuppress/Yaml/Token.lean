import BulkSuppress.Yaml.Cursor

/-
  The tokens of a YAML text, with the places where they stand.
-/

namespace BulkSuppress.Yaml

/-- How a scalar is written. -/
inductive Style where
  | plain | singleQuoted | doubleQuoted | literal | folded
deriving DecidableEq, Repr

/-- A token. -/
inductive Token where
  | versionDirective (major minor : Nat)
  | tagDirective (handle pre : String)
  | documentStart
  | documentEnd
  | blockSequenceStart
  | blockMappingStart
  | blockEnd
  | flowSequenceStart
  | flowSequenceEnd
  | flowMappingStart
  | flowMappingEnd
  | blockEntry
  | flowEntry
  | key
  | value
  | alias (name : String)
  | anchor (name : String)
  | tag (handle suffix : String)
  | scalar (text : String) (style : Style)
  /-- The end of the text. -/
  | finish
deriving DecidableEq, Repr

/-- A token with the places where it starts and stops. -/
structure Lexeme where
  token : Token
  start : Mark
  stop : Mark
deriving Repr

end BulkSuppress.Yaml
