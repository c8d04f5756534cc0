import BulkSuppress.Reading.Mismatch

/-
  A cursor in a YAML text: the characters that are left and the place reached. Lines end at LF,
  CR, CR LF and at the line ends of Unicode; columns count characters. The `size` lemmas say that
  nothing moves backwards.
-/

namespace BulkSuppress.Yaml

/-! ## Characters -/

/-- A character that ends a line. -/
def isBreak (c : Char) : Bool :=
  c = '\n' || c = '\r' || c = '\u0085' || c = '\u2028' || c = '\u2029'

/-- A space or a tab. -/
def isSpacing (c : Char) : Bool :=
  c = ' ' || c = '\t'

/-- A space, a tab or the end of a line. -/
def isGap (c : Char) : Bool :=
  isSpacing c || isBreak c

/-- A character of the names of anchors, directives and tag handles. -/
def isNameChar (c : Char) : Bool :=
  c.isAlphanum || c = '_' || c = '-'

/-- The code points that a text may hold, as closed ranges. -/
def allowedRanges : List (Nat × Nat) :=
  [(0x09, 0x0A), (0x0D, 0x0D), (0x20, 0x7E), (0x85, 0x85), (0xA0, 0xD7FF), (0xE000, 0xFFFD),
    (0x10000, 0x10FFFF)]

/-- A character that a text may hold. -/
def isAllowed (c : Char) : Bool :=
  allowedRanges.any fun r => r.1 ≤ c.toNat && c.toNat ≤ r.2

/-! ## Cursors -/

/-- A place in a text, all counted from zero. -/
structure Mark where
  /-- The number of bytes in front of the place. -/
  index : Nat := 0
  line : Nat := 0
  column : Nat := 0
deriving DecidableEq, Repr

/-- The place as messages name it. -/
def Mark.position (m : Mark) : Position :=
  ⟨m.line + 1, m.column + 1⟩

/-- The characters that are left of a text, and the place where they start. -/
structure Cursor where
  rest : List Char
  mark : Mark := {}
deriving Repr

namespace Cursor

/-- The number of characters that are left. -/
def size (c : Cursor) : Nat := c.rest.length

/-- The column reached. -/
def column (c : Cursor) : Nat := c.mark.column

/-- The character `n` places ahead. -/
def peek? (c : Cursor) (n : Nat := 0) : Option Char := c.rest[n]?

/-- The character `n` places ahead is `ch`. -/
def sees (c : Cursor) (ch : Char) (n : Nat := 0) : Bool := c.peek? n == some ch

/-- The character `n` places ahead is in the class, or the text ends before it. -/
def seesOrEnd (c : Cursor) (p : Char → Bool) (n : Nat := 0) : Bool := (c.peek? n).all p

/-- The next character is in the class. -/
def seesAny (c : Cursor) (p : Char → Bool) : Bool := (c.peek?).any p

/-- The number of bytes of so many characters. -/
def bytes (c : Cursor) (n : Nat) : Nat :=
  (c.rest.take n).foldl (fun total ch => total + ch.utf8Size) 0

/-- The cursor behind `n` characters of the same line. -/
def advance (c : Cursor) (n : Nat := 1) : Cursor :=
  ⟨c.rest.drop n,
    { c.mark with index := c.mark.index + c.bytes n, column := c.mark.column + n }⟩

/-- The longest run of characters of the class, none of which ends a line. -/
def span (c : Cursor) (p : Char → Bool) : List Char × Cursor :=
  let run := c.rest.takeWhile p
  (run, c.advance run.length)

/-- The cursor behind the longest run of characters of the class. -/
def skip (c : Cursor) (p : Char → Bool) : Cursor := (c.span p).2

/-- The cursor at the start of the next line, behind `n` characters. -/
def nextLine (c : Cursor) (n : Nat) : Cursor :=
  ⟨c.rest.drop n, ⟨c.mark.index + c.bytes n, c.mark.line + 1, 0⟩⟩

/-- The line end at the cursor, all kinds that Unicode does not tell apart as LF. -/
def takeBreak? (c : Cursor) : Option (Char × Cursor) :=
  match c.rest with
  | '\r' :: '\n' :: _ => some ('\n', c.nextLine 2)
  | b :: _ =>
    if b = '\u2028' || b = '\u2029' then some (b, c.nextLine 1)
    else if isBreak b then some ('\n', c.nextLine 1)
    else none
  | [] => none

/-- The cursor behind the line end, if there is one. -/
def skipBreak (c : Cursor) : Cursor :=
  match c.takeBreak? with
  | some (_, c') => c'
  | none => c

/-- The cursor behind spaces, tabs and a comment; nothing comes back if the line goes on. -/
def endOfLine? (c : Cursor) : Option Cursor :=
  let c := c.skip isSpacing
  let c := if c.sees '#' then c.skip (!isBreak ·) else c
  if c.seesOrEnd isBreak then some c.skipBreak else none

/-- The cursor stands at a line that starts with three times `ch` as a word of its own. -/
def atRule (c : Cursor) (ch : Char) : Bool :=
  c.column = 0 && c.sees ch && c.sees ch 1 && c.sees ch 2 && c.seesOrEnd isGap 3

/-- The cursor stands at a line that starts or ends a document. -/
def atDocumentMark (c : Cursor) : Bool :=
  c.atRule '-' || c.atRule '.'

theorem size_advance (c : Cursor) (n : Nat) : (c.advance n).size = c.size - n := by
  simp [advance, size]

theorem size_span (c : Cursor) (p : Char → Bool) : (c.span p).2.size ≤ c.size := by
  simp only [span, size_advance]; omega

theorem size_takeBreak? {c c' : Cursor} {b : Char} (h : c.takeBreak? = some (b, c')) :
    c'.size < c.size := by
  unfold takeBreak? at h
  split at h
  · rename_i hr
    simp only [Option.some.injEq, Prod.mk.injEq] at h
    rw [← h.2]
    simp only [nextLine, size, hr, List.length_cons, List.drop_succ_cons, List.drop_zero]
    omega
  · rename_i hr
    split at h
    · simp only [Option.some.injEq, Prod.mk.injEq] at h
      rw [← h.2]; simp [nextLine, size, hr]
    · split at h
      · simp only [Option.some.injEq, Prod.mk.injEq] at h
        rw [← h.2]; simp [nextLine, size, hr]
      · cases h
  · cases h

end Cursor
end BulkSuppress.Yaml
