import BulkSuppress.Text.Quoted

/-
  JSON documents and their text: two spaces more for each level, one member or element a line,
  empty brackets closed at once.
-/

namespace BulkSuppress.Json

/-- A JSON value. -/
inductive Document where
  | boolean (b : Bool)
  | number (n : Nat)
  | string (s : String)
  | list (items : List Document)
  | object (members : List (String × Document))
deriving Repr

namespace Document

/-- A hexadecimal number of four digits. -/
def hex4 (n : Nat) : List Char :=
  let ds := Nat.toDigits 16 n
  List.replicate (4 - ds.length) '0' ++ ds

/-- The spelling of a character inside double quotes. -/
def escapeChar (c : Char) : List Char :=
  if c = '"' then ['\\', '"']
  else if c = '\\' then ['\\', '\\']
  else if c = '\x08' then ['\\', 'b']
  else if c = '\x0c' then ['\\', 'f']
  else if c = '\n' then ['\\', 'n']
  else if c = '\r' then ['\\', 'r']
  else if c = '\t' then ['\\', 't']
  else if c.toNat < 0x20 then '\\' :: 'u' :: hex4 c.toNat
  else [c]

/-- A string between double quotes. -/
def stringText (s : String) : List Char :=
  '"' :: s.toList.flatMap escapeChar ++ ['"']

/-- A line break and the blanks in front of a line of the given level. -/
def lineStart (level : Nat) : List Char :=
  '\n' :: List.replicate (2 * level) ' '

mutual

/-- The text of a value on the given level. -/
def text (level : Nat) : Document → List Char
  | .boolean b => (toString b).toList
  | .number n => Nat.toDigits 10 n
  | .string s => stringText s
  | .list [] => ['[', ']']
  | .list (x :: xs) =>
    '[' :: lineStart (level + 1) ++ text (level + 1) x ++ itemsText (level + 1) xs ++
      lineStart level ++ [']']
  | .object [] => ['\x7b', '\x7d']
  | .object ((k, x) :: xs) =>
    '\x7b' :: lineStart (level + 1) ++ stringText k ++ [':', ' '] ++ text (level + 1) x ++
      membersText (level + 1) xs ++ lineStart level ++ ['\x7d']

/-- The text of the elements after the first. -/
def itemsText (level : Nat) : List Document → List Char
  | [] => []
  | x :: xs => ',' :: lineStart level ++ text level x ++ itemsText level xs

/-- The text of the members after the first. -/
def membersText (level : Nat) : List (String × Document) → List Char
  | [] => []
  | (k, x) :: xs =>
    ',' :: lineStart level ++ stringText k ++ [':', ' '] ++ text level x ++ membersText level xs

end

/-- The text of a document. -/
def toText (d : Document) : String :=
  String.ofList (text 0 d)

end Document
end BulkSuppress.Json
