import BulkSuppress.Json.Cursor
import BulkSuppress.Text.Utf8

/-
  JSON strings. A string that is used has to be UTF-8 text with its surrogates paired; of one
  that is skipped only the shape of its escapes is looked at.
-/

namespace BulkSuppress.Json

/-- The value of a hexadecimal digit. -/
def hexValue? (b : UInt8) : Option Nat :=
  if isDigit b then some (digitValue b)
  else if 0x41 ≤ b && b ≤ 0x46 then some (b.toNat - 0x41 + 10)
  else if 0x61 ≤ b && b ≤ 0x66 then some (b.toNat - 0x61 + 10)
  else none

/-- The value of four hexadecimal digits. -/
def hexValue4? (a b c d : UInt8) : Option Nat := do
  let a ← hexValue? a
  let b ← hexValue? b
  let c ← hexValue? c
  let d ← hexValue? d
  return ((a * 16 + b) * 16 + c) * 16 + d

/-- The number that the four digits after `\u` spell. -/
def hexEscape (c : Cursor) : Except Error (Nat × Cursor) :=
  match c.rest with
  | w :: x :: y :: z :: _ =>
    match hexValue4? w x y z with
    | some n => .ok (n, c.advanceBy 4)
    | none => (c.advanceBy 4).fail .invalidEscape
  | _ => (c.advanceBy c.size).fail .endInString

theorem size_hexEscape {c c' : Cursor} {n : Nat} (h : hexEscape c = .ok (n, c')) :
    c'.size ≤ c.size := by
  unfold hexEscape at h
  split at h
  · split at h
    · simp only [Except.ok.injEq, Prod.mk.injEq] at h
      rw [← h.2, Cursor.size_advanceBy]; omega
    · simp [Cursor.fail] at h
  · simp [Cursor.fail] at h

/-- The byte that a one-letter escape stands for. -/
def letterEscape? (b : UInt8) : Option UInt8 :=
  match b with
  | 0x22 => some 0x22
  | 0x5C => some 0x5C
  | 0x2F => some 0x2F
  | 0x62 => some 0x08
  | 0x66 => some 0x0C
  | 0x6E => some 0x0A
  | 0x72 => some 0x0D
  | 0x74 => some 0x09
  | _ => none

/-- The second half of a surrogate pair. -/
def isTrailing (n : Nat) : Bool := 0xDC00 ≤ n && n ≤ 0xDFFF

/-- The first half of a surrogate pair. -/
def isLeading (n : Nat) : Bool := 0xD800 ≤ n && n ≤ 0xDBFF

/-- The UTF-8 bytes of a code point. -/
def bytesOf (n : Nat) : List UInt8 :=
  (Utf8.encode (String.singleton (Char.ofNat n))).data.toList

/-- One given byte has to follow inside a surrogate pair. -/
def pairByte (expected : UInt8) (c : Cursor) : Except Error Cursor :=
  match c.peek? with
  | none => c.fail .endInString
  | some b => if b = expected then .ok c.advance else c.advance.fail .unfinishedSurrogate

theorem size_pairByte {b : UInt8} {c c' : Cursor} (h : pairByte b c = .ok c') :
    c'.size ≤ c.size := by
  unfold pairByte at h
  split at h
  · simp [Cursor.fail] at h
  · split at h
    · simp at h; subst h; simp
    · simp [Cursor.fail] at h

/-- The bytes of the character that `\u` and what follows it stand for. -/
def unicodeEscape (c : Cursor) : Except Error (List UInt8 × Cursor) := do
  let (n, c) ← hexEscape c
  if isTrailing n then c.fail .loneSurrogate
  else if isLeading n then do
    let c ← pairByte 0x5C c
    let c ← pairByte 0x75 c
    let (m, c) ← hexEscape c
    if isTrailing m then return (bytesOf (0x10000 + (n - 0xD800) * 0x400 + (m - 0xDC00)), c)
    else c.fail .loneSurrogate
  else return (bytesOf n, c)

theorem size_unicodeEscape {c c' : Cursor} {bs : List UInt8}
    (h : unicodeEscape c = .ok (bs, c')) : c'.size ≤ c.size := by
  simp only [unicodeEscape, bind, Except.bind, pure, Except.pure] at h
  split at h
  · cases h
  · rename_i v hv
    have h1 := size_hexEscape hv
    split at h
    · simp [Cursor.fail] at h
    · split at h
      · split at h
        · cases h
        · rename_i c1 hc1
          have h2 := size_pairByte hc1
          split at h
          · cases h
          · rename_i c2 hc2
            have h3 := size_pairByte hc2
            split at h
            · cases h
            · rename_i w hw
              have h4 := size_hexEscape hw
              split at h
              · simp only [Except.ok.injEq, Prod.mk.injEq] at h
                rw [← h.2]; omega
              · simp [Cursor.fail] at h
      · simp only [Except.ok.injEq, Prod.mk.injEq] at h
        rw [← h.2]; exact h1

/-- The bytes that an escape stands for; the backslash has been read. -/
def escape (c : Cursor) : Except Error (List UInt8 × Cursor) :=
  match c.peek? with
  | none => c.fail .endInString
  | some 0x75 => unicodeEscape c.advance
  | some b =>
    match letterEscape? b with
    | some x => .ok ([x], c.advance)
    | none => c.advance.fail .invalidEscape

theorem size_escape {c c' : Cursor} {bs : List UInt8} (h : escape c = .ok (bs, c')) :
    c'.size ≤ c.size := by
  unfold escape at h
  split at h
  · simp [Cursor.fail] at h
  · have := size_unicodeEscape h; simp at this; omega
  · split at h
    · simp only [Except.ok.injEq, Prod.mk.injEq] at h
      rw [← h.2]; simp
    · simp [Cursor.fail] at h

/-- The bytes of a string up to its closing quote; the opening one has been read. -/
def stringBytes (c : Cursor) : Except Error (List UInt8 × Cursor) :=
  match hp : c.peek? with
  | none => c.fail .endInString
  | some b =>
    have := Cursor.size_pos_of_peek? hp
    if b = 0x22 then .ok ([], c.advance)
    else if b = 0x5C then
      match he : escape c.advance with
      | .error e => .error e
      | .ok (bs, c') =>
        have := size_escape he
        (stringBytes c').map fun r => (bs ++ r.1, r.2)
    else if b < 0x20 then c.advance.fail .controlCharacter
    else (stringBytes c.advance).map fun r => (b :: r.1, r.2)
termination_by c.size
decreasing_by all_goals (simp_all <;> omega)

theorem size_stringBytes {c c' : Cursor} {bs : List UInt8} (h : stringBytes c = .ok (bs, c')) :
    c'.size < c.size := by
  fun_induction stringBytes c generalizing bs with
  | case1 c hp => simp [Cursor.fail] at h
  | case2 c hp hpos =>
    simp only [Except.ok.injEq, Prod.mk.injEq] at h
    rw [← h.2, Cursor.size_advance]; omega
  | case3 => cases h
  | case4 c bs' c1 he hs hp hpos hne ih =>
    obtain ⟨⟨r1, r2⟩, hr, e⟩ := map_eq_ok h
    simp only [Prod.mk.injEq] at e
    have := ih (e.2 ▸ hr)
    simp only [Cursor.size_advance] at hs
    omega
  | case5 => simp [Cursor.fail] at h
  | case6 c b hp hpos h1 h2 h3 ih =>
    obtain ⟨⟨r1, r2⟩, hr, e⟩ := map_eq_ok h
    simp only [Prod.mk.injEq] at e
    have := ih (e.2 ▸ hr)
    simp only [Cursor.size_advance] at this; omega

/--
The text of a string; the opening quote has been read. Bytes that are no text are found out when
the string is complete: the place is as many columns to the left of its end as there are bytes
from the first ill-formed one on.
-/
def string (c : Cursor) : Except Error (String × Cursor) := do
  let (bytes, c) ← stringBytes c
  match Utf8.decode? ⟨bytes.toArray⟩ with
  | some s => return (s, c)
  | none => .error ⟨.invalidText, ⟨c.place.line, c.place.column - Utf8.spoiltLength bytes⟩⟩

theorem size_string {c c' : Cursor} {s : String} (h : string c = .ok (s, c')) :
    c'.size < c.size := by
  simp only [string, bind, Except.bind, pure, Except.pure] at h
  split at h
  · cases h
  · rename_i v hv
    have := size_stringBytes hv
    split at h
    · simp only [Except.ok.injEq, Prod.mk.injEq] at h
      rw [← h.2]; exact this
    · simp at h

/-! ## Skipping -/

/-- The cursor behind an escape that nobody looks at; the backslash has been read. -/
def skipEscape (c : Cursor) : Except Error Cursor :=
  match c.peek? with
  | none => c.fail .endInString
  | some 0x75 => (hexEscape c.advance).map (·.2)
  | some b =>
    match letterEscape? b with
    | some _ => .ok c.advance
    | none => c.advance.fail .invalidEscape

theorem size_skipEscape {c c' : Cursor} (h : skipEscape c = .ok c') : c'.size ≤ c.size := by
  unfold skipEscape at h
  split at h
  · simp [Cursor.fail] at h
  · cases hq : hexEscape c.advance with
    | error e => simp [hq, Except.map] at h
    | ok r =>
      simp [hq, Except.map] at h
      have := size_hexEscape hq
      subst h; simp at this; omega
  · split at h
    · simp at h; subst h; simp
    · simp [Cursor.fail] at h

/-- The cursor behind a string that nobody looks at; the opening quote has been read. -/
def skipString (c : Cursor) : Except Error Cursor :=
  match hp : c.peek? with
  | none => c.fail .endInString
  | some b =>
    have := Cursor.size_pos_of_peek? hp
    if b = 0x22 then .ok c.advance
    else if b = 0x5C then
      match he : skipEscape c.advance with
      | .error e => .error e
      | .ok c' =>
        have := size_skipEscape he
        skipString c'
    else if b < 0x20 then c.fail .controlCharacter
    else skipString c.advance
termination_by c.size
decreasing_by all_goals (simp_all <;> omega)

theorem size_skipString {c c' : Cursor} (h : skipString c = .ok c') : c'.size < c.size := by
  fun_induction skipString c with
  | case1 c hp => simp [Cursor.fail] at h
  | case2 c hp hpos =>
    simp only [Except.ok.injEq] at h
    rw [← h, Cursor.size_advance]; omega
  | case3 => cases h
  | case4 c c1 he hs hp hpos hne ih =>
    have := ih h
    simp only [Cursor.size_advance] at hs; omega
  | case5 => simp [Cursor.fail] at h
  | case6 c b hp hpos h1 h2 h3 ih =>
    have := ih h
    simp only [Cursor.size_advance] at this; omega

end BulkSuppress.Json
