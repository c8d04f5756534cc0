import BulkSuppress.Text.Lines
import BulkSuppress.Text.Utf8

/-
  Octets: what shell scripts, their variables and their files are made of. An octet is held as the
  character with the same number, so that literals and classes of characters serve for octets too.
-/

namespace BulkSuppress.Shell

/-- A sequence of octets. -/
abbrev Octets := List Char

/-- What the numbers are together. -/
def total (ns : List Nat) : Nat := ns.foldr (· + ·) 0

namespace Octets

/-- The octets of bytes. -/
def ofBytes (bytes : ByteArray) : Octets :=
  bytes.data.toList.map fun b => Char.ofNat b.toNat

/-- Octets as bytes. -/
def toBytes (cs : Octets) : ByteArray :=
  ⟨(cs.map fun c => c.toNat.toUInt8).toArray⟩

/-- The octets that encode a text. -/
def ofText (s : String) : Octets := ofBytes (Utf8.encode s)

/-- The text that octets encode. -/
def toText (cs : Octets) : String := Utf8.decodeLossy (toBytes cs)

/-- Octets with a separator between them. -/
def join (separator : Octets) (parts : List Octets) : Octets :=
  separator.intercalate parts

/-- The lines of octets, without their ends; whether the last one has an end is told too. -/
def lines (cs : Octets) : List Octets × Bool :=
  match cs with
  | [] => ([], true)
  | _ =>
    let pieces := Text.pieces '\n' cs
    if cs.getLast? = some '\n' then (pieces.dropLast, true) else (pieces, false)

/-- The items in the order of their octets, one that another one starts with before it. -/
def sorted (items : List Octets) : List Octets :=
  items.mergeSort fun a b => (List.compareLex (fun c d => compare c.toNat d.toNat) a b).isLE

end Octets

/-- A decimal digit. -/
def isDigit (c : Char) : Bool := '0' ≤ c && c ≤ '9'

/-- A letter of ASCII. -/
def isLetter (c : Char) : Bool := ('a' ≤ c && c ≤ 'z') || ('A' ≤ c && c ≤ 'Z')

/-- A character that a name can start with. -/
def startsName (c : Char) : Bool := isLetter c || c = '_'

/-- A character of names. -/
def isNameChar (c : Char) : Bool := startsName c || isDigit c

/-- A name, as variables and functions have them. -/
def isName (cs : Octets) : Bool :=
  match cs with
  | [] => false
  | c :: rest => startsName c && rest.all isNameChar

/-- The value of a digit of a base of at most sixteen. -/
def digitIn? (base : Nat) (c : Char) : Option Nat :=
  let value :=
    if isDigit c then c.toNat - '0'.toNat
    else if 'a' ≤ c && c ≤ 'f' then c.toNat - 'a'.toNat + 10
    else if 'A' ≤ c && c ≤ 'F' then c.toNat - 'A'.toNat + 10
    else base
  if value < base then some value else none

/-- The number that digits of a base spell. -/
def numberIn (base : Nat) (digits : Octets) : Nat :=
  digits.foldl (fun n c => n * base + (digitIn? base c).getD 0) 0

/-- The number that decimal digits spell, if there are any and nothing else. -/
def decimal? (cs : Octets) : Option Nat :=
  if cs.isEmpty || !cs.all isDigit then none else some (numberIn 10 cs)

end BulkSuppress.Shell
