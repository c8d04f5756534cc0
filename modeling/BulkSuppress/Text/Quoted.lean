import BulkSuppress.Text.Visible

/-
  Text as it is shown to a reader. Quoted, a text stands between double quotes; quotes, backslashes,
  tabs and line breaks are escaped by letters, NUL as a zero, and every other character that is not
  visible by its code point in hexadecimal. In lines for a terminal, the control characters that a
  terminal could take for a command are spelled out: escape, bell, backspace, form feed and delete
  by two hexadecimal digits, those of the second control block by their code point. Line ends, tabs
  and all other characters stay.
-/

namespace BulkSuppress.Text

/-- The spelling of one character inside double quotes. -/
def quoteChar (c : Char) : List Char :=
  if c = '"' then ['\\', '"']
  else if c = '\\' then ['\\', '\\']
  else if c = '\n' then ['\\', 'n']
  else if c = '\r' then ['\\', 'r']
  else if c = '\t' then ['\\', 't']
  else if c = '\x00' then ['\\', '0']
  else if isVisible c then [c]
  else '\\' :: 'u' :: '\x7b' :: Nat.toDigits 16 c.toNat ++ ['\x7d']

/-- The text between double quotes. -/
def quote (s : String) : String :=
  String.ofList ('"' :: s.toList.flatMap quoteChar ++ ['"'])

/-! ## Lines for a terminal -/

/-- The controls of ASCII that are spelled out. -/
def terminalControls : List Char := ['\x1b', '\x07', '\x08', '\x0c', '\x7f']

/-- A control of the second block, which follows ASCII. -/
def isLateControl (c : Char) : Bool :=
  0x80 ≤ c.toNat && c.toNat ≤ 0x9f

/-- A character as a line for a terminal has it. -/
def harmlessChar (c : Char) : List Char :=
  if terminalControls.contains c then
    '\\' :: 'x' :: [Nat.digitChar (c.toNat / 16), Nat.digitChar (c.toNat % 16)]
  else if isLateControl c then '\\' :: 'u' :: '\x7b' :: Nat.toDigits 16 c.toNat ++ ['\x7d']
  else [c]

/-- A text as a line for a terminal has it. -/
def harmless (s : String) : String :=
  String.ofList (s.toList.flatMap harmlessChar)

end BulkSuppress.Text
