import BulkSuppress.Json.Error

/-
  A cursor in a JSON text: the bytes that are left, and the place reached. Errors are placed
  either where the cursor stands or behind the byte that it looks at.
-/

namespace BulkSuppress.Json

/-- The line feed. -/
abbrev newline : UInt8 := 0x0A

/-- The ASCII code of a character. -/
def ascii (c : Char) : UInt8 := c.toNat.toUInt8

/-- The decimal digits as bytes. -/
def isDigit (b : UInt8) : Bool := 0x30 ≤ b && b ≤ 0x39

/-- The value of a decimal digit. -/
def digitValue (b : UInt8) : Nat := b.toNat - 0x30

/-- The place behind a byte at `p`. -/
def placeAfter (p : Position) (b : UInt8) : Position :=
  if b = newline then ⟨p.line + 1, 0⟩ else ⟨p.line, p.column + 1⟩

/-- The bytes that are left of a text, and the place where they start. -/
structure Cursor where
  rest : List UInt8
  place : Position := ⟨1, 0⟩
deriving Repr

namespace Cursor

/-- The number of bytes that are left. -/
def size (c : Cursor) : Nat := c.rest.length

/-- The cursor behind the next byte. -/
def advance : Cursor → Cursor
  | ⟨[], p⟩ => ⟨[], p⟩
  | ⟨b :: rest, p⟩ => ⟨rest, placeAfter p b⟩

/-- The cursor behind the next `n` bytes. -/
def advanceBy : Nat → Cursor → Cursor
  | 0, c => c
  | n + 1, c => advanceBy n c.advance

/-- The next byte. -/
def peek? (c : Cursor) : Option UInt8 := c.rest.head?

/-- The next byte, or NUL at the end. -/
def peekD (c : Cursor) : UInt8 := c.peek?.getD 0

@[simp] theorem size_advance (c : Cursor) : c.advance.size = c.size - 1 := by
  obtain ⟨rest, p⟩ := c
  cases rest <;> simp [advance, size]

theorem size_advance_le (c : Cursor) : c.advance.size ≤ c.size := by
  rw [size_advance]; exact Nat.sub_le _ _

theorem size_advanceBy (n : Nat) (c : Cursor) : (c.advanceBy n).size = c.size - n := by
  induction n generalizing c with
  | zero => rfl
  | succ n ih => rw [advanceBy, ih, size_advance]; omega

theorem size_pos_of_peek? {c : Cursor} {b : UInt8} (h : c.peek? = some b) : 0 < c.size := by
  obtain ⟨rest, p⟩ := c
  cases rest with
  | nil => simp [peek?] at h
  | cons => simp [size]

theorem size_pos_of_peekD {c : Cursor} (h : c.peekD ≠ 0) : 0 < c.size := by
  obtain ⟨rest, p⟩ := c
  cases rest with
  | nil => simp [peekD, peek?] at h
  | cons => simp [size]

/-- A problem where the cursor stands. -/
def fail {α : Type} (c : Cursor) (problem : Problem) : Except Error α :=
  .error ⟨problem, c.place⟩

/-- A problem with the byte that the cursor looks at. -/
def failNext {α : Type} (c : Cursor) (problem : Problem) : Except Error α :=
  .error ⟨problem, c.advance.place⟩

/-- A byte that may stand between the parts of a JSON text. -/
def isBlankByte (b : UInt8) : Bool :=
  b == 0x20 || b == 0x0A || b == 0x09 || b == 0x0D

/-- The cursor behind the blanks that follow. -/
def skipBlanks (c : Cursor) : Cursor :=
  go c.rest c.place
where
  go : List UInt8 → Position → Cursor
    | [], p => ⟨[], p⟩
    | b :: rest, p => if isBlankByte b then go rest (placeAfter p b) else ⟨b :: rest, p⟩

theorem size_skipBlanks (c : Cursor) : c.skipBlanks.size ≤ c.size := by
  obtain ⟨rest, p⟩ := c
  unfold skipBlanks
  induction rest generalizing p with
  | nil => simp [skipBlanks.go, size]
  | cons b rest ih =>
    unfold skipBlanks.go
    split
    · exact Nat.le_trans (ih _) (by simp [size])
    · simp [size]

end Cursor

/-- What a mapped success comes from. -/
theorem map_eq_ok {α β : Type} {x : Except Error α} {f : α → β} {y : β}
    (h : x.map f = .ok y) : ∃ a, x = .ok a ∧ f a = y := by
  cases x with
  | error e => simp [Except.map] at h
  | ok a => exact ⟨a, rfl, by simpa [Except.map] using h⟩

/-- The cursor behind the bytes of a word of which the first letter has been read. -/
def word : List UInt8 → Cursor → Except Error Cursor
  | [], c => .ok c
  | expected :: more, c =>
    match c.peek? with
    | none => c.fail .endInValue
    | some b => if b = expected then word more c.advance else c.advance.fail .expectedIdentifier

theorem size_word {bytes : List UInt8} {c c' : Cursor} (h : word bytes c = .ok c') :
    c'.size ≤ c.size := by
  induction bytes generalizing c with
  | nil => simp [word] at h; subst h; exact Nat.le_refl _
  | cons b bytes ih =>
    unfold word at h
    split at h
    · simp [Cursor.fail] at h
    · split at h
      · have := ih h; simp at this; omega
      · simp [Cursor.fail] at h

/-- The rest of `null` after its first letter. -/
def nullTail : List UInt8 := [0x75, 0x6C, 0x6C]
/-- The rest of `true` after its first letter. -/
def trueTail : List UInt8 := [0x72, 0x75, 0x65]
/-- The rest of `false` after its first letter. -/
def falseTail : List UInt8 := [0x61, 0x6C, 0x73, 0x65]

end BulkSuppress.Json
