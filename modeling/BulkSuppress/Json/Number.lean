import BulkSuppress.Decimal.Shortest
import BulkSuppress.Json.Cursor

/-
  JSON numbers. A number is only read to be named in a message, or to be skipped. An integer of
  at most 64 bits is named by its digits; every other number is read as a floating point number,
  whose digits beyond 64 bits are dropped, and named by the shortest decimal.
-/

namespace BulkSuppress.Json

/-- The largest number that digits are collected into. -/
def significandLimit : Nat := Nat.pow 2 64 - 1

/-- The largest exponent that digits are collected into. -/
def exponentLimit : Nat := Nat.pow 2 31 - 1

/-- The digits at a cursor, collected as long as they stay within a limit. -/
structure Digits where
  value : Nat
  /-- The number of digits that were collected. -/
  taken : Nat
  /-- The number of digits after those that were collected. -/
  dropped : Nat
  next : Cursor

/-- The cursor behind all digits, and their number. -/
def passDigits (c : Cursor) : Nat × Cursor :=
  go c.rest c.place
where
  go : List UInt8 → Position → Nat × Cursor
    | [], p => (0, ⟨[], p⟩)
    | b :: rest, p =>
      if isDigit b then
        let r := go rest (placeAfter p b)
        (r.1 + 1, r.2)
      else (0, ⟨b :: rest, p⟩)

/-- Collect digits on top of `value` as long as the result is at most `limit`. -/
def takeDigits (limit value : Nat) (c : Cursor) : Digits :=
  go value 0 c.rest c.place
where
  go (value taken : Nat) : List UInt8 → Position → Digits
    | [], p => ⟨value, taken, 0, ⟨[], p⟩⟩
    | b :: rest, p =>
      if isDigit b then
        let value' := value * 10 + digitValue b
        if limit < value' then
          let r := passDigits ⟨b :: rest, p⟩
          ⟨value, taken, r.1, r.2⟩
        else go value' (taken + 1) rest (placeAfter p b)
      else ⟨value, taken, 0, ⟨b :: rest, p⟩⟩

/-- The floating point number nearest to a power of ten. -/
def powerOfTen (n : Nat) : Float := Float.ofScientific 1 false n

/-- The largest power of ten that is a finite floating point number. -/
def largestPower : Nat := 308

/-- `f / 10 ^ n`, dividing by as large powers as there are, `steps` times at most. -/
def divideByPower (steps : Nat) (f : Float) (n : Nat) : Float :=
  match steps with
  | 0 => f
  | steps + 1 =>
    if n ≤ largestPower then f / powerOfTen n
    else if f == 0.0 then f
    else divideByPower steps (f / powerOfTen largestPower) (n - largestPower)

/-- The number of digits `significand` and an exponent, or nothing if it is too large. -/
def floatOf? (significand : Nat) (exponent : Int) : Option Float :=
  let f := significand.toUInt64.toFloat
  if 0 ≤ exponent then
    if exponent.toNat ≤ largestPower then
      let r := f * powerOfTen exponent.toNat
      if r.isInf then none else some r
    else if f == 0.0 then some f else none
  else some (divideByPower 8 f (-exponent).toNat)

/-- The name of a floating point number with the given sign. -/
def foundFloat (negative : Bool) (f : Float) : Found :=
  .float (FloatStyle.compact.text (if negative then -f else f))

/-- The name of a number of its digits and an exponent. -/
def finishFloat (negative : Bool) (significand : Nat) (exponent : Int) (c : Cursor) :
    Except Error (Found × Cursor) :=
  match floatOf? significand exponent with
  | some f => .ok (foundFloat negative f, c)
  | none => c.fail .numberOutOfRange

/-- The cursor behind a sign, if there is one. -/
def skipSign (c : Cursor) : Cursor :=
  if c.peekD == ascii '+' || c.peekD == ascii '-' then c.advance else c

theorem size_skipSign (c : Cursor) : (skipSign c).size ≤ c.size := by
  unfold skipSign
  split <;> simp

/-- The exponent of a number, from its letter on. -/
def exponentPart (negative : Bool) (significand : Nat) (exponent : Int) (c : Cursor) :
    Except Error (Found × Cursor) :=
  let c := c.advance
  let down := c.peekD == ascii '-'
  let c := skipSign c
  match c.peek? with
  | none => c.fail .endInValue
  | some b =>
    if isDigit b then
      let ds := takeDigits exponentLimit 0 c
      if ds.dropped = 0 then
        finishFloat negative significand
          (exponent + (if down then -(ds.value : Int) else ds.value)) ds.next
      else if significand != 0 && !down then
        (c.advanceBy (ds.taken + 1)).fail .numberOutOfRange
      else .ok (foundFloat negative 0.0, ds.next)
    else c.advance.fail .invalidNumber

/-- The exponent of a number, if there is one. -/
def optionalExponent (negative : Bool) (significand : Nat) (exponent : Int) (c : Cursor) :
    Except Error (Found × Cursor) :=
  if c.peekD == ascii 'e' || c.peekD == ascii 'E' then
    exponentPart negative significand exponent c
  else finishFloat negative significand exponent c

/-- The part of a number from its point on. -/
def fractionPart (negative : Bool) (significand : Nat) (exponent : Int) (c : Cursor) :
    Except Error (Found × Cursor) :=
  let c := c.advance
  let ds := takeDigits significandLimit significand c
  if ds.taken = 0 && ds.dropped = 0 then
    match c.peek? with
    | none => c.failNext .endInValue
    | some _ => c.failNext .invalidNumber
  else optionalExponent negative ds.value (exponent - ds.taken) ds.next

/-- The name of an integer of at most 64 bits. -/
def foundInteger (negative : Bool) (n : Nat) : Found :=
  if !negative then .integer n
  else if n = 0 || Nat.pow 2 63 < n then foundFloat true n.toUInt64.toFloat
  else .integer (-n)

/-- What may follow the integer part of a number. -/
def afterInteger (negative : Bool) (ds : Digits) : Except Error (Found × Cursor) :=
  let c := ds.next
  if c.peekD == ascii '.' then fractionPart negative ds.value ds.dropped c
  else if c.peekD == ascii 'e' || c.peekD == ascii 'E' then
    exponentPart negative ds.value ds.dropped c
  else if ds.dropped = 0 then .ok (foundInteger negative ds.value, c)
  else finishFloat negative ds.value ds.dropped c

/-- The name of a number; its sign has been read. -/
def unsignedNumber (negative : Bool) (c : Cursor) : Except Error (Found × Cursor) :=
  match c.peek? with
  | none => c.fail .endInValue
  | some b =>
    if b = ascii '0' then
      if isDigit c.advance.peekD then c.advance.failNext .invalidNumber
      else afterInteger negative ⟨0, 1, 0, c.advance⟩
    else if isDigit b then afterInteger negative (takeDigits significandLimit 0 c)
    else c.advance.fail .invalidNumber

/-- The name of a number. -/
def number (c : Cursor) : Except Error (Found × Cursor) :=
  if c.peekD == ascii '-' then unsignedNumber true c.advance else unsignedNumber false c

/-! ## Skipping -/

theorem size_passDigits (c : Cursor) : (passDigits c).2.size ≤ c.size := by
  obtain ⟨rest, p⟩ := c
  unfold passDigits
  induction rest generalizing p with
  | nil => simp [passDigits.go, Cursor.size]
  | cons b rest ih =>
    unfold passDigits.go
    split
    · exact Nat.le_trans (ih _) (by simp [Cursor.size])
    · simp [Cursor.size]

/-- The cursor behind an exponent that nobody looks at, from its letter on. -/
def skipExponent (c : Cursor) : Except Error Cursor :=
  let c := skipSign c.advance
  if isDigit c.peekD then .ok (passDigits c).2 else c.advance.fail .invalidNumber

/-- The cursor behind the part of a number from its point on, if it has one. -/
def skipFraction (c : Cursor) : Except Error Cursor :=
  if c.peekD == ascii '.' then
    let (n, c) := passDigits c.advance
    if n = 0 then c.failNext .invalidNumber
    else if c.peekD == ascii 'e' || c.peekD == ascii 'E' then skipExponent c
    else .ok c
  else if c.peekD == ascii 'e' || c.peekD == ascii 'E' then skipExponent c
  else .ok c

/-- The cursor behind a number that nobody looks at; its sign has been read. -/
def skipUnsigned (c : Cursor) : Except Error Cursor :=
  if c.peekD == ascii '0' then
    if isDigit c.advance.peekD then c.advance.failNext .invalidNumber
    else skipFraction c.advance
  else if isDigit c.peekD then skipFraction (passDigits c).2
  else c.advance.fail .invalidNumber

theorem size_skipExponent {c c' : Cursor} (h : skipExponent c = .ok c') : c'.size ≤ c.size := by
  simp only [skipExponent] at h
  have h1 := size_skipSign c.advance
  simp only [Cursor.size_advance] at h1
  split at h
  · have := size_passDigits (skipSign c.advance)
    simp only [Except.ok.injEq] at h
    rw [← h]; omega
  · simp [Cursor.fail] at h

theorem size_skipFraction {c c' : Cursor} (h : skipFraction c = .ok c') : c'.size ≤ c.size := by
  simp only [skipFraction] at h
  split at h
  · have h1 := size_passDigits c.advance
    simp only [Cursor.size_advance] at h1
    split at h
    · simp [Cursor.failNext] at h
    · split at h
      · have := size_skipExponent h; omega
      · simp only [Except.ok.injEq] at h; rw [← h]; omega
  · split at h
    · exact size_skipExponent h
    · simp only [Except.ok.injEq] at h; exact h ▸ Nat.le_refl _

theorem size_skipUnsigned {c c' : Cursor} (h : skipUnsigned c = .ok c') : c'.size ≤ c.size := by
  simp only [skipUnsigned] at h
  split at h
  · split at h
    · simp [Cursor.failNext] at h
    · have := size_skipFraction h
      simp only [Cursor.size_advance] at this; omega
  · split at h
    · have h1 := size_passDigits c
      have := size_skipFraction h; omega
    · simp [Cursor.fail] at h

end BulkSuppress.Json
