import BulkSuppress.Json.Number
import BulkSuppress.Json.Text

/-
  Skipping a JSON value that nobody looks at, however deep it is. The brackets that are open are
  kept in a list; `skipValue` ends behind the value that it started at.
-/

namespace BulkSuppress.Json

/-- A bracket that is open. -/
inductive Frame where
  | list | object
deriving DecidableEq, Repr

namespace Frame

/-- The byte that closes the bracket. -/
def close : Frame → UInt8
  | .list => ascii ']'
  | .object => ascii '\x7d'

/-- What is wrong when the text ends before the bracket is closed. -/
def endProblem : Frame → Problem
  | .list => .endInList
  | .object => .endInObject

/-- What is wrong when neither a comma nor the closing bracket follows an entry. -/
def separatorProblem : Frame → Problem
  | .list => .expectedListEnd
  | .object => .expectedObjectEnd

/-- The bracket that a byte opens. -/
def ofByte? (b : UInt8) : Option Frame :=
  if b = ascii '[' then some .list else if b = ascii '\x7b' then some .object else none

end Frame

/-- The cursor behind a value without brackets that starts with the byte `b`. -/
def skipScalar (b : UInt8) (c : Cursor) : Except Error Cursor :=
  if b = ascii 'n' then word nullTail c.advance
  else if b = ascii 't' then word trueTail c.advance
  else if b = ascii 'f' then word falseTail c.advance
  else if b = ascii '-' then skipUnsigned c.advance
  else if isDigit b then skipUnsigned c
  else if b = ascii '"' then skipString c.advance
  else c.failNext .expectedValue

theorem size_skipUnsigned_of_digit {c c' : Cursor} (hd : isDigit c.peekD = true)
    (h : skipUnsigned c = .ok c') : c'.size < c.size := by
  have hpos : 0 < c.size := Cursor.size_pos_of_peekD (by
    intro h0; rw [h0] at hd; exact absurd hd (by decide))
  simp only [skipUnsigned] at h
  split at h
  · split at h
    · simp [Cursor.failNext] at h
    · have := size_skipFraction h
      simp only [Cursor.size_advance] at this; omega
  · have h1 : (passDigits c).2.size < c.size := by
      obtain ⟨rest, p⟩ := c
      cases rest with
      | nil => simp [Cursor.size] at hpos
      | cons b rest =>
        simp only [Cursor.peekD, Cursor.peek?, List.head?_cons, Option.getD_some] at hd
        simp only [passDigits, passDigits.go, hd, if_true]
        have := size_passDigits ⟨rest, placeAfter p b⟩
        simp only [passDigits] at this
        simp only [Cursor.size, List.length_cons] at this ⊢
        omega
    have := size_skipFraction h
    omega

theorem size_skipScalar {b : UInt8} {c c' : Cursor} (hb : c.peek? = some b)
    (h : skipScalar b c = .ok c') : c'.size < c.size := by
  have hpos := Cursor.size_pos_of_peek? hb
  unfold skipScalar at h
  split at h
  · have := size_word h; simp only [Cursor.size_advance] at this; omega
  split at h
  · have := size_word h; simp only [Cursor.size_advance] at this; omega
  split at h
  · have := size_word h; simp only [Cursor.size_advance] at this; omega
  split at h
  · have := size_skipUnsigned h; simp only [Cursor.size_advance] at this; omega
  split at h
  · rename_i hd
    exact size_skipUnsigned_of_digit (by rw [Cursor.peekD, hb]; exact hd) h
  split at h
  · have := size_skipString h; simp only [Cursor.size_advance] at this; omega
  · simp [Cursor.failNext] at h

/-- The cursor behind an object's key and colon, from the key's opening quote on. -/
def skipKey (c : Cursor) : Except Error Cursor :=
  let c := c.skipBlanks
  match c.peek? with
  | none => c.failNext .endInObject
  | some b =>
    if b = ascii '"' then do
      let c ← skipString c.advance
      let c := c.skipBlanks
      match c.peek? with
      | none => c.failNext .endInObject
      | some b => if b = ascii ':' then return c.advance else c.failNext .expectedColon
    else c.failNext .keyNotString

theorem size_skipKey {c c' : Cursor} (h : skipKey c = .ok c') : c'.size < c.size := by
  have h0 := Cursor.size_skipBlanks c
  simp only [skipKey, bind, Except.bind, pure, Except.pure] at h
  split at h
  · simp [Cursor.failNext] at h
  · split at h
    · split at h
      · cases h
      · rename_i c1 hc1
        have h1 := size_skipString hc1
        have h2 := Cursor.size_skipBlanks c1
        simp only [Cursor.size_advance] at h1
        split at h
        · simp [Cursor.failNext] at h
        · split at h
          · simp only [Except.ok.injEq] at h
            rw [← h, Cursor.size_advance]; omega
          · simp [Cursor.failNext] at h
    · simp [Cursor.failNext] at h

theorem size_skipBlanks_advance {c c1 : Cursor} (hpos : 0 < c1.size) (h : c1.size ≤ c.size) :
    c1.advance.skipBlanks.size < c.size := by
  have := Cursor.size_skipBlanks c1.advance
  rw [Cursor.size_advance] at this
  omega

mutual

/-- The cursor behind a value inside the brackets of `open'`, and behind these brackets. -/
def skipFrom (open' : List Frame) (c : Cursor) : Except Error { c' : Cursor // c'.size < c.size } :=
  match hc : c.skipBlanks with
  | c1 =>
  have h1 : c1.size ≤ c.size := hc ▸ Cursor.size_skipBlanks c
  match hp : c1.peek? with
  | none => c1.failNext .endInValue
  | some b =>
    have hpos := Cursor.size_pos_of_peek? hp
    match Frame.ofByte? b with
    | none =>
      match hs : skipScalar b c1 with
      | .error e => .error e
      | .ok c2 =>
        have h2 := Nat.lt_of_lt_of_le (size_skipScalar hp hs) h1
        (skipAfter open' c2).map fun r => ⟨r.1, Nat.lt_of_le_of_lt r.2 h2⟩
    | some frame =>
      match hc2 : c1.advance.skipBlanks with
      | c2 =>
      have h2 : c2.size < c.size := hc2 ▸ size_skipBlanks_advance hpos h1
      match c2.peek? with
      | none => c2.failNext frame.endProblem
      | some b =>
        if b = frame.close then
          (skipAfter open' c2.advance).map fun r =>
            ⟨r.1, Nat.lt_of_le_of_lt (Nat.le_trans r.2 c2.size_advance_le) h2⟩
        else (skipEntry frame open' c2).map fun r => ⟨r.1, Nat.lt_trans r.2 h2⟩
termination_by 2 * c.size
decreasing_by
  all_goals (try simp only [Cursor.size_advance])
  all_goals omega

/-- The cursor behind the brackets that are open after a value. -/
def skipAfter (open' : List Frame) (c : Cursor) :
    Except Error { c' : Cursor // c'.size ≤ c.size } :=
  match open' with
  | [] => .ok ⟨c, Nat.le_refl _⟩
  | frame :: outer =>
    match hc : c.skipBlanks with
    | c1 =>
    have h1 : c1.size ≤ c.size := hc ▸ Cursor.size_skipBlanks c
    match hp : c1.peek? with
    | none => c1.failNext frame.endProblem
    | some b =>
      have := Cursor.size_pos_of_peek? hp
      if b = ascii ',' then
        (skipEntry frame outer c1.advance).map fun r =>
          ⟨r.1, Nat.le_trans (Nat.le_of_lt r.2) (Nat.le_trans c1.size_advance_le h1)⟩
      else if b = frame.close then
        (skipAfter outer c1.advance).map fun r =>
          ⟨r.1, Nat.le_trans r.2 (Nat.le_trans c1.size_advance_le h1)⟩
      else c1.failNext frame.separatorProblem
termination_by 2 * c.size
decreasing_by
  all_goals (try simp only [Cursor.size_advance])
  all_goals omega

/-- The cursor behind an entry of the bracket `frame` and behind all open brackets. -/
def skipEntry (frame : Frame) (outer : List Frame) (c : Cursor) :
    Except Error { c' : Cursor // c'.size < c.size } :=
  match frame with
  | .list => skipFrom (.list :: outer) c
  | .object =>
    match hk : skipKey c with
    | .error e => .error e
    | .ok c1 =>
      have h1 := size_skipKey hk
      (skipFrom (.object :: outer) c1).map fun r => ⟨r.1, Nat.lt_trans r.2 h1⟩
termination_by 2 * c.size + 1
decreasing_by all_goals omega

end

/-- The cursor behind a value that nobody looks at. -/
def skipValue (c : Cursor) : Except Error Cursor :=
  (skipFrom [] c).map (·.1)

theorem size_skipValue {c c' : Cursor} (h : skipValue c = .ok c') : c'.size < c.size := by
  obtain ⟨r, -, hr⟩ := map_eq_ok h
  have := r.2
  rw [← hr]; exact this

end BulkSuppress.Json
