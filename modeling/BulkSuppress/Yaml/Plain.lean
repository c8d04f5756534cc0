import BulkSuppress.Decimal.Shortest
import BulkSuppress.Reading.Mismatch
import BulkSuppress.Yaml.Node

/-
  What plain scalars mean: a null, a truth value, an integer, a number with a fractional part, or
  else the text itself. Quoted scalars are texts; a tag can ask for a meaning.
-/

namespace BulkSuppress.Yaml

/-! ## Words -/

/-- A word for the null value. -/
def isNullWord (text : String) : Bool :=
  ["null", "Null", "NULL", "~"].contains text

/-- A word for a truth value. -/
def boolean? (text : String) : Option Bool :=
  if ["true", "True", "TRUE"].contains text then some true
  else if ["false", "False", "FALSE"].contains text then some false
  else none

/-! ## Integers -/

/-- The value of a digit below `base`, in either case. -/
def digit? (base : Nat) (c : Char) : Option Nat :=
  let d :=
    if c.isDigit then c.toNat - '0'.toNat
    else if 'a' ≤ c && c ≤ 'f' then c.toNat - 'a'.toNat + 10
    else if 'A' ≤ c && c ≤ 'F' then c.toNat - 'A'.toNat + 10
    else base
  if d < base then some d else none

/-- The number that digits spell, of which there is at least one. -/
def digits? (base : Nat) (cs : List Char) : Option Nat :=
  if cs.isEmpty then none
  else cs.foldlM (fun acc c => (digit? base c).map (acc * base + ·)) 0

/-- The bases that a mark in front of the digits can tell. -/
def based? : List Char → Option (Nat × List Char)
  | '0' :: 'x' :: rest => some (16, rest)
  | '0' :: 'o' :: rest => some (8, rest)
  | '0' :: 'b' :: rest => some (2, rest)
  | _ => none

/-- A text of digits that is no number for the zero in front of them. -/
def isPadded : List Char → Bool
  | '0' :: rest => !rest.isEmpty && rest.all Char.isDigit
  | _ => false

/-- The number that a text without a sign spells. -/
def magnitude? (cs : List Char) : Option Nat :=
  match based? cs with
  | some (base, rest) => digits? base rest
  | none => if isPadded cs then none else digits? 10 cs

/-- The number without a sign, or with a plus, up to `limit`. -/
def unsigned? (limit : Nat) (text : String) : Option Nat :=
  (magnitude? (match text.toList with
    | '+' :: rest => rest
    | cs => cs)).filter (· ≤ limit)

/-- The absolute value of the number with a minus, up to `limit`. -/
def negative? (limit : Nat) (text : String) : Option Nat :=
  match text.toList with
  | '-' :: rest => (magnitude? rest).filter (· ≤ limit)
  | _ => none

/-- The largest number of 64 bits. -/
def wordLimit : Nat := Nat.pow 2 64 - 1

/-- An integer, in the narrowest of the ranges that integers are kept in. -/
def integer? (text : String) : Option Found :=
  (unsigned? wordLimit text).map (fun n => Found.integer n)
    <|> (negative? (Nat.pow 2 63) text).map (fun n => .integer (-n))
    <|> (unsigned? (Nat.pow 2 128 - 1) text).map (fun n => .wideInteger n "u128")
    <|> (negative? (Nat.pow 2 127) text).map (fun n => .wideInteger (-n) "i128")

/-! ## Numbers with a fractional part -/

/-- The parts of a number in decimal notation. -/
structure Notation10 where
  negative : Bool
  digits : List Char
  exponent : Int

/-- A sign at the front, and the rest. -/
def takeSign : List Char → Bool × List Char
  | '-' :: rest => (true, rest)
  | '+' :: rest => (false, rest)
  | cs => (false, cs)

/-- The exponent that a text consists of, or zero for an empty text. -/
def exponent? : List Char → Option Int
  | [] => some 0
  | e :: rest =>
    if e = 'e' || e = 'E' then
      let (negative, ds) := takeSign rest
      (digits? 10 ds).map fun n => if negative then -(n : Int) else n
    else none

/-- The decimal notation that a text is. -/
def notation10? (cs : List Char) : Option Notation10 :=
  let (negative, cs) := takeSign cs
  let whole := cs.takeWhile Char.isDigit
  let afterWhole := cs.dropWhile Char.isDigit
  let (part, rest) := match afterWhole with
    | '.' :: more => (more.takeWhile Char.isDigit, more.dropWhile Char.isDigit)
    | _ => ([], afterWhole)
  if whole.isEmpty && part.isEmpty then none
  else (exponent? rest).map fun e => ⟨negative, whole ++ part, e - part.length⟩

/-- The number nearest to a decimal notation, if it is finite. -/
def Notation10.nearest? (x : Notation10) : Option Float :=
  let n := (digits? 10 x.digits).getD 0
  let lead := x.exponent + (Nat.toDigits 10 n).length
  let f : Float :=
    if n = 0 || lead < -400 then 0.0
    else if 400 < lead then Float.ofScientific 1 false 400
    else Float.ofScientific n (x.exponent < 0) x.exponent.natAbs
  if f.isFinite then some (if x.negative then -f else f) else none

/-- A number with a fractional part, an exponent or too many digits, by its text. -/
def float? (text : String) : Option String :=
  let unsigned := match text.toList with
    | '+' :: rest => rest
    | cs => cs
  if [".inf", ".Inf", ".INF"].contains (String.ofList unsigned) then some "inf"
  else if ["-.inf", "-.Inf", "-.INF"].contains text then some "-inf"
  else if [".nan", ".NaN", ".NAN"].contains text then some "NaN"
  else if unsigned.length < text.length && (unsigned.head? = some '+' || unsigned.head? = some '-')
  then none
  else (notation10? unsigned).bind fun x => x.nearest?.map FloatStyle.plain.text

/-! ## Meanings -/

/-- The meaning of a plain scalar. -/
def plainMeaning (text : String) : Found :=
  if text.isEmpty || isNullWord text then .unit
  else match boolean? text with
    | some b => .boolean b
    | none =>
      match integer? text with
      | some found => found
      | none =>
        if isPadded (takeSign text.toList).2 then .string text
        else match float? text with
          | some number => .float number
          | none => .string text

/-- The full name of a tag of the standard kinds. -/
def standardTag (kind : String) : String := "tag:yaml.org,2002:" ++ kind

namespace Scalar

/-- Why the scalar, of which something else was expected, does not fit. -/
def mismatch (s : Scalar) (expected : String) : Mismatch :=
  let announced (found : Option Found) (kind : String) : Mismatch :=
    match found with
    | some found => .wrongType found expected
    | none => .wrongValue s.text kind
  let plain := .wrongType (plainMeaning s.text) expected
  let text := .wrongType (.string s.text) expected
  match s.tag with
  | some tag =>
    if tag = standardTag "bool" then announced ((boolean? s.text).map .boolean) "a boolean"
    else if tag = standardTag "int" then announced (integer? s.text) "an integer"
    else if tag = standardTag "float" then announced ((float? s.text).map .float) "a float"
    else if tag = standardTag "null" then
      announced (if isNullWord s.text then some .unit else none) "null"
    else if tag.toList.head? = some '!' && s.style = .plain then plain
    else text
  | none => if s.style = .plain then plain else text

/-- The scalar may be read as a value of the kind: it is plain, or literal with the kind's tag. -/
def allows (s : Scalar) (kind : String) : Bool :=
  match s.style with
  | .plain => true
  | .literal => s.tag = some (standardTag kind)
  | _ => false

/-- The truth value that a scalar is. -/
def boolean? (s : Scalar) : Option Bool :=
  if s.allows "bool" then Yaml.boolean? s.text else none

/-- The number without a sign that a scalar is. -/
def natural? (s : Scalar) : Option Nat :=
  if s.allows "int" then unsigned? wordLimit s.text else none

/-- The scalar stands for nothing. A tag that announces a null must not be on anything else. -/
def isNothing (s : Scalar) : Except Mismatch Bool :=
  if s.style ≠ .plain then .ok false
  else match s.tag with
    | none => .ok (s.text.isEmpty || isNullWord s.text)
    | some tag =>
      if tag ≠ standardTag "null" then .ok false
      else if isNullWord s.text then .ok true
      else .error (.wrongValue s.text "null")

end Scalar
end BulkSuppress.Yaml
