import BulkSuppress.Shell.Syntax

/-
  The text of a script while it is being read. What a here-document says comes behind the line
  that asks for it, so that it is kept apart, under a number that the redirection names.
-/

namespace BulkSuppress.Shell

/-- A token of a script. -/
inductive Token where
  | word (w : Word)
  | assignment (a : Assignment)
  /-- A word that has a meaning of its own where a command can start. -/
  | keyword (text : String)
  /-- An operator; a line end is one. -/
  | operator (text : String)
  /-- A redirection, which may be one of several descriptors. -/
  | redirection (rs : List Redirection)
  /-- The end of the script. -/
  | finish
instance : Inhabited Token := ⟨.finish⟩

/-- A here-document of which the text is still to come. -/
structure Awaited where
  number : Nat
  /-- The line that ends it. -/
  mark : Octets
  /-- Its text is taken as it is. -/
  verbatim : Bool
  /-- Tabs at the front of its lines are left out. -/
  untabbed : Bool

/-- A text that stands in place of a word while a script is read. -/
structure Replacement where
  /-- The word. -/
  word : String
  /-- The number of characters that are left behind the text. -/
  behind : Nat
  /-- The text ends with a blank, so that the word behind it can be replaced too. -/
  goesOn : Bool

/-- A script while it is being read. -/
structure Source where
  rest : Octets
  dialect : Dialect := .common
  line : Nat := 1
  /-- It comes from a file. -/
  isFile : Bool := false
  /-- What it is a part of, for messages. -/
  context : String := ""
  awaited : List Awaited := []
  /-- The number of here-documents that were asked for so far. -/
  serial : Nat := 0
  /-- The here-documents so far, by number. -/
  documents : List (Nat × Word) := []
  /-- A token that has been looked at and is still to be used. -/
  returned : Option Token := none
  /-- The texts for words that are to be replaced. -/
  aliases : List (String × Octets) := []
  /-- The replacements that are being read, innermost first. -/
  replacements : List Replacement := []
  /-- An assignment can come next. -/
  assigns : Bool := false
  /-- Words can hold groups of patterns. -/
  groups : Bool := false
  /-- How the last token is spelled. -/
  last : Octets := []
  /-- The last line of the script has no end. -/
  endsOpen : Bool := false
  /-- What there is to warn of so far, with the lines where that was found out. -/
  warnings : List (Nat × String) := []

/-- What does not fit, and the line where that was found out. -/
structure SyntaxProblem where
  line : Nat
  texts : List String
  /-- The number of characters that had not been read then. -/
  left : Nat
  /-- The line of the script is to be shown. -/
  showsLine : Bool := false
  /-- Only the line is given up, and the script goes on behind it. -/
  isMinor : Bool := false
  /-- The status with which the script ends. -/
  status : Nat := 2
deriving DecidableEq, Repr

/-- The message for the lack of an end in the extended dialect. -/
def endMissing : String := "syntax error: unexpected end of file"

/-- The message for the lack of a mark in the extended dialect. -/
def markMissing (mark : Char) : String :=
  "unexpected EOF while looking for matching \x60" ++ String.singleton mark ++ "'"

/-- Reading that ends where something does not fit. -/
abbrev Reader := StateT Source (Except SyntaxProblem)

namespace Reader

/-- Give up, for the reason given. -/
def reject {α : Type} (text : String) : Reader α := fun s =>
  .error { line := s.line, texts := [text], left := s.rest.length }

/-- Give up, for reasons that are told before the line of the script is shown. -/
def rejectLine {α : Type} (texts : List String) (isMinor : Bool := false) : Reader α := fun s =>
  .error { line := s.line, texts, left := s.rest.length, showsLine := true, isMinor }

/-- The script speaks the extended dialect. -/
def isExtended : Reader Bool := do return (← get).dialect = .extended

/-- Give up, for a reason that each dialect has its own words for. -/
def rejectAs {α : Type} (common extended : String) : Reader α := do
  reject (if ← isExtended then extended else common)

/-- Give up, for lack of an end of the script that should have come first. -/
def exhausted {α : Type} : Reader α := do
  if ← isExtended then modify fun s => { s with line := if s.endsOpen then s.line + 1 else s.line }
  rejectAs "end of file unexpected" endMissing

/-- Give up, for lack of a mark that ends what started on a line. -/
def unclosed {α : Type} (common : String) (mark : Char) (line : Nat) (status : Nat := 2) :
    Reader α := do
  if ← isExtended then
    fun s => .error { line, texts := [markMissing mark], left := s.rest.length, status }
  else reject common

/-- The next character. -/
def peek : Reader (Option Char) := do return (← get).rest.head?

/-- The characters that are left. -/
def left : Reader Octets := do return (← get).rest

/-- Go on behind some characters. -/
def skip (n : Nat) : Reader Unit :=
  modify fun s => { s with
    rest := s.rest.drop n
    line := s.line + (s.rest.take n).count '\n' }

/-- Go on behind line ends that are escaped. -/
def joinLines : Nat → Reader Unit
  | 0 => return
  | n + 1 => do
    match ← left with
    | '\\' :: '\n' :: _ =>
      skip 2
      joinLines n
    | _ => return

/-- The next character that is no escaped line end. -/
def peekJoined : Reader (Option Char) := do
  joinLines (← left).length
  peek

/-- The characters of a class that come next. -/
def span (p : Char → Bool) : Reader Octets := do
  let cs := (← left).takeWhile p
  skip cs.length
  return cs

end Reader
end BulkSuppress.Shell
