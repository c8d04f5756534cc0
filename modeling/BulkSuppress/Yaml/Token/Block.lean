import BulkSuppress.Yaml.Token

/-
  Block scalars: lines of text that are marked off by their indentation. A literal scalar keeps
  its line ends, a folded one joins lines that start without spacing; a header tells what becomes
  of the line ends behind the text, and may tell the indentation.
-/

namespace BulkSuppress.Yaml.Block

/-- What becomes of the line ends behind the text. -/
inductive Chomping where
  /-- None stays. -/
  | strip
  /-- The first stays. -/
  | clip
  /-- All stay. -/
  | keep
deriving DecidableEq, Repr

/-- The header of a block scalar. -/
structure Header where
  chomping : Chomping := .clip
  /-- The indentation over that of the surrounding block, if it is told. -/
  increment : Option Nat := none

/-- A chomping indicator. -/
def chomping? : Option Char → Option Chomping
  | some '+' => some .keep
  | some '-' => some .strip
  | _ => none

/-- The value of a digit. -/
def digit? : Option Char → Option Nat
  | some c => if c.isDigit then some (c.toNat - '0'.toNat) else none
  | none => none

/-- The header at the cursor, which stands behind the style indicator. No digit may be zero. -/
def header (c : Cursor) : Option (Header × Cursor) :=
  match chomping? c.peek?, digit? c.peek? with
  | some chomping, _ =>
    match digit? (c.peek? 1) with
    | some 0 => none
    | some n => some (⟨chomping, some n⟩, c.advance 2)
    | none => some (⟨chomping, none⟩, c.advance)
  | none, some 0 => none
  | none, some n =>
    match chomping? (c.peek? 1) with
    | some chomping => some (⟨chomping, some n⟩, c.advance 2)
    | none => some (⟨.clip, some n⟩, c.advance)
  | none, none => some ({}, c)

/-- The number of spaces to skip from the cursor, up to the indentation if it is known. -/
def margin (indent : Option Nat) (c : Cursor) : Nat :=
  let spaces := (c.rest.takeWhile (· = ' ')).length
  match indent with
  | none => spaces
  | some n => min spaces (n - c.column)

/-- The column lies in front of the indentation, or the indentation is not known yet. -/
def isShort (indent : Option Nat) (column : Nat) : Bool :=
  match indent with
  | none => true
  | some n => column < n

/--
The line ends of empty lines, the deepest column among their ends, and the cursor behind the
indentation of the line that follows. A tab where indentation is expected is not allowed.
-/
def emptyLines (indent : Option Nat) (deepest : Nat) (c : Cursor) :
    Option (List Char × Nat × Cursor) :=
  let c1 := c.advance (margin indent c)
  let deepest := max deepest c1.column
  if isShort indent c1.column && c1.sees '\t' then none
  else match h : c1.takeBreak? with
    | none => some ([], deepest, c1)
    | some (b, c2) =>
      have : c2.size < c.size := by
        have h1 := Cursor.size_takeBreak? h
        have h2 := Cursor.size_advance c (margin indent c)
        simp only [c1] at h1
        omega
      (emptyLines indent deepest c2).map fun r => (b :: r.1, r.2)
termination_by c.size

/-- What stands between two lines of text. -/
def joint (folded : Bool) (lead : Option Char) (trail : List Char) : List Char :=
  if folded && lead = some '\n' then (if trail.isEmpty then [' '] else trail)
  else lead.toList ++ trail

/-- What stays of the line ends behind the text. -/
def ending (chomping : Chomping) (lead : Option Char) (trail : List Char) : List Char :=
  match chomping with
  | .strip => []
  | .clip => lead.toList
  | .keep => lead.toList ++ trail

/-- The lines of text before one line, and what is known about the last of them. -/
structure Before where
  /-- The line end of the last line of text. -/
  lead : Option Char := none
  /-- The line ends of the empty lines behind it. -/
  trail : List Char
  /-- The last line of text starts with spacing. -/
  spaced : Bool := false

/-- The rest of the text from a line on, with what joins it to the lines before. -/
def lines (folded : Bool) (chomping : Chomping) (indent : Nat) (b : Before) (c : Cursor) :
    Option (List Char × Cursor) :=
  if c.column ≠ indent || c.rest.isEmpty then some (ending chomping b.lead b.trail, c)
  else
    let spaced := c.seesAny isSpacing
    let glue := joint (folded && !b.spaced && !spaced) b.lead b.trail
    let (line, c1) := c.span (!isBreak ·)
    let (lead, c2) := match c1.takeBreak? with
      | some (br, c2) => (some br, c2)
      | none => (none, c1)
    match emptyLines (some indent) 0 c2 with
    | none => none
    | some (trail, _, c3) =>
      -- A line of text has a character or a line end, so that the cursor has moved.
      if c3.size < c.size then
        (lines folded chomping indent ⟨lead, trail, spaced⟩ c3).map fun r =>
          (glue ++ line ++ r.1, r.2)
      else none
termination_by c.size

/--
The text of a block scalar inside a block at column `outer`; -1 stands for no block. The cursor
stands behind the style indicator.
-/
def scan (folded : Bool) (outer : Int) (c : Cursor) : Option (List Char × Cursor) := do
  let (h, c) ← header c
  let c ← c.endOfLine?
  let told := h.increment.map fun n => (max outer 0).toNat + n
  let (trail, deepest, c) ← emptyLines told 0 c
  let indent := told.getD (max (max deepest (outer + 1).toNat) 1)
  lines folded h.chomping indent { trail } c

end BulkSuppress.Yaml.Block
