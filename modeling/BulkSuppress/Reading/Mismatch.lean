import BulkSuppress.Text.Quoted

/-
  Places in a text that is being read, and values of the wrong type: what a reader found there, and
  what it expected.
-/

namespace BulkSuppress

/-- A line, counted from one, and a column in it. -/
structure Position where
  line : Nat
  column : Nat
deriving DecidableEq, Repr, Inhabited

/-- The end of a message that names a place. -/
def Position.suffix (p : Position) : String :=
  " at line " ++ toString p.line ++ " column " ++ toString p.column

/-- A value as a message names it. -/
inductive Found where
  | null
  | unit
  | boolean (b : Bool)
  | integer (i : Int)
  /-- An integer that needs more than 64 bits, with the name of a width that holds it. -/
  | wideInteger (i : Int) (width : String)
  /-- A number with a fractional part or an exponent, by its text. -/
  | float (text : String)
  | string (s : String)
  | sequence
  | map
deriving DecidableEq, Repr

/-- The name of a value. -/
def Found.message : Found → String
  | .null => "null"
  | .unit => "unit value"
  | .boolean b => "boolean `" ++ toString b ++ "`"
  | .integer i => "integer `" ++ toString i ++ "`"
  | .wideInteger i width => "integer `" ++ toString i ++ "` as " ++ width
  | .float text => "floating point `" ++ text ++ "`"
  | .string s => "string " ++ Text.quote s
  | .sequence => "sequence"
  | .map => "map"

/-- A value that does not fit. -/
inductive Mismatch where
  | wrongType (found : Found) (expected : String)
  /-- A text that announces a type which it is not of. -/
  | wrongValue (text : String) (expected : String)
deriving DecidableEq, Repr

/-- The wording of a mismatch. -/
def Mismatch.message : Mismatch → String
  | .wrongType found expected => "invalid type: " ++ found.message ++ ", expected " ++ expected
  | .wrongValue text expected =>
    "invalid value: " ++ (Found.string text).message ++ ", expected " ++ expected

end BulkSuppress
