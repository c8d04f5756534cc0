import BulkSuppress.Json.Skip

/-
  Reading JSON values of known types straight from the text. Whatever is wrong first in the text
  is reported, be it the grammar or a type; a scalar of the wrong type is reported behind it, a
  bracket of the wrong type in front of it.
-/

namespace BulkSuppress.Json

/-- The value at the cursor, by name, and the cursor that its type error is placed at. -/
def foundAt (c : Cursor) : Except Error (Found × Cursor) :=
  let b := c.peekD
  if b = ascii 'n' then (word nullTail c.advance).map fun c => (.null, c)
  else if b = ascii 't' then (word trueTail c.advance).map fun c => (.boolean true, c)
  else if b = ascii 'f' then (word falseTail c.advance).map fun c => (.boolean false, c)
  else if b = ascii '-' || isDigit b then number c
  else if b = ascii '"' then (string c.advance).map fun r => (.string r.1, r.2)
  else if b = ascii '[' then .ok (.sequence, c)
  else if b = ascii '\x7b' then .ok (.map, c)
  else c.failNext .expectedValue

/-- The value at the cursor is not of the expected type. -/
def wrongType {α : Type} (expected : String) (c : Cursor) : Except Error α := do
  let (found, c) ← foundAt c
  c.fail (.mismatch (.wrongType found expected))

/-- The first byte of a value, and the cursor at it. -/
def valueStart (c : Cursor) : Except Error (UInt8 × Cursor) :=
  let c := c.skipBlanks
  match c.peek? with
  | none => c.failNext .endInValue
  | some b => .ok (b, c)

theorem size_valueStart {c c' : Cursor} {b : UInt8} (h : valueStart c = .ok (b, c')) :
    c'.size ≤ c.size ∧ 0 < c'.size := by
  simp only [valueStart] at h
  split at h
  · simp [Cursor.failNext] at h
  · rename_i b' hb
    simp only [Except.ok.injEq, Prod.mk.injEq] at h
    rw [← h.2]
    exact ⟨Cursor.size_skipBlanks c, Cursor.size_pos_of_peek? hb⟩

/-- A string. -/
def textValue (c : Cursor) : Except Error (String × Cursor) := do
  let (b, c) ← valueStart c
  if b = ascii '"' then string c.advance else wrongType "a string" c

/-- `true` or `false`. -/
def booleanValue (c : Cursor) : Except Error (Bool × Cursor) := do
  let (b, c) ← valueStart c
  if b = ascii 't' then (word trueTail c.advance).map fun c => (true, c)
  else if b = ascii 'f' then (word falseTail c.advance).map fun c => (false, c)
  else wrongType "a boolean" c

/-- A string or `null`. -/
def optionalText (c : Cursor) : Except Error (Option String × Cursor) :=
  let c := c.skipBlanks
  if c.peekD = ascii 'n' then (word nullTail c.advance).map fun c => (none, c)
  else (textValue c).map fun r => (some r.1, r.2)

theorem wrongType_ne_ok {α : Type} {expected : String} {c : Cursor} {r : α} :
    wrongType expected c ≠ .ok r := by
  simp only [wrongType, bind, Except.bind]
  split <;> simp [Cursor.fail]

theorem size_textValue {c c' : Cursor} {s : String} (h : textValue c = .ok (s, c')) :
    c'.size < c.size := by
  simp only [textValue, bind, Except.bind] at h
  split at h
  · cases h
  · rename_i v hv
    obtain ⟨h1, h2⟩ := size_valueStart hv
    split at h
    · have := size_string h
      simp only [Cursor.size_advance] at this; omega
    · exact absurd h wrongType_ne_ok

theorem size_booleanValue {c c' : Cursor} {b : Bool} (h : booleanValue c = .ok (b, c')) :
    c'.size < c.size := by
  simp only [booleanValue, bind, Except.bind] at h
  split at h
  · cases h
  · rename_i v hv
    obtain ⟨h1, h2⟩ := size_valueStart hv
    split at h
    · obtain ⟨c2, hw, e⟩ := map_eq_ok h
      have := size_word hw
      simp only [Prod.mk.injEq] at e
      simp only [Cursor.size_advance] at this
      rw [← e.2]; omega
    · split at h
      · obtain ⟨c2, hw, e⟩ := map_eq_ok h
        have := size_word hw
        simp only [Prod.mk.injEq] at e
        simp only [Cursor.size_advance] at this
        rw [← e.2]; omega
      · exact absurd h wrongType_ne_ok

theorem size_optionalText {c c' : Cursor} {s : Option String}
    (h : optionalText c = .ok (s, c')) : c'.size < c.size := by
  have h0 := Cursor.size_skipBlanks c
  simp only [optionalText] at h
  split at h
  · rename_i hn
    have hpos : 0 < c.skipBlanks.size := Cursor.size_pos_of_peekD (by
      rw [hn]; decide)
    obtain ⟨c2, hw, e⟩ := map_eq_ok h
    have := size_word hw
    simp only [Prod.mk.injEq] at e
    simp only [Cursor.size_advance] at this
    rw [← e.2]; omega
  · obtain ⟨⟨s', c2⟩, hw, e⟩ := map_eq_ok h
    have := size_textValue hw
    simp only [Prod.mk.injEq] at e
    rw [← e.2]; omega

/-! ## Lists -/

/-- The cursor at the next element of a list, or none at its closing bracket. -/
def nextElement (first : Bool) (c : Cursor) : Except Error (Option Cursor) :=
  let c := c.skipBlanks
  match c.peek? with
  | none => c.failNext .endInList
  | some b =>
    if b = ascii ']' then .ok none
    else if first then .ok (some c)
    else if b = ascii ',' then
      let c := c.advance.skipBlanks
      match c.peek? with
      | none => c.failNext .endInValue
      | some b => if b = ascii ']' then c.failNext .trailingComma else .ok (some c)
    else c.failNext .expectedListEnd

theorem size_nextElement {first : Bool} {c c' : Cursor}
    (h : nextElement first c = .ok (some c')) : c'.size ≤ c.size := by
  have h0 := Cursor.size_skipBlanks c
  simp only [nextElement] at h
  split at h
  · simp [Cursor.failNext] at h
  · split at h
    · cases h
    · split at h
      · simp only [Except.ok.injEq, Option.some.injEq] at h
        rw [← h]; exact h0
      · split at h
        · have h1 := Cursor.size_skipBlanks c.skipBlanks.advance
          simp only [Cursor.size_advance] at h1
          split at h
          · simp [Cursor.failNext] at h
          · split at h
            · simp [Cursor.failNext] at h
            · simp only [Except.ok.injEq, Option.some.injEq] at h
              rw [← h]; omega
        · simp [Cursor.failNext] at h

/-- The cursor behind the closing bracket of a list. -/
def endList (c : Cursor) : Except Error Cursor :=
  let c := c.skipBlanks
  match c.peek? with
  | none => c.failNext .endInList
  | some b =>
    if b = ascii ']' then .ok c.advance
    else if b = ascii ',' then
      let c := c.advance.skipBlanks
      if c.peekD = ascii ']' then c.failNext .trailingComma else c.failNext .trailingCharacters
    else c.failNext .trailingCharacters

theorem size_endList {c c' : Cursor} (h : endList c = .ok c') : c'.size ≤ c.size := by
  have h0 := Cursor.size_skipBlanks c
  simp only [endList] at h
  split at h
  · simp [Cursor.failNext] at h
  · split at h
    · simp only [Except.ok.injEq] at h
      rw [← h, Cursor.size_advance]; omega
    · split at h
      · split at h <;> simp [Cursor.failNext] at h
      · simp [Cursor.failNext] at h

/-- A way to read a value, which uses up some of the text. -/
structure Reader (α : Type) where
  read : Cursor → Except Error (α × Cursor)
  size_read : ∀ {c c' : Cursor} {a : α}, read c = .ok (a, c') → c'.size < c.size

/-- The elements of a list; the opening bracket has been read, the closing one has not. -/
def elements {α : Type} (r : Reader α) (first : Bool) (c : Cursor) :
    Except Error (List α × Cursor) :=
  match hn : nextElement first c with
  | .error e => .error e
  | .ok none => .ok ([], c)
  | .ok (some c1) =>
    match hr : r.read c1 with
    | .error e => .error e
    | .ok (a, c2) =>
      have := size_nextElement hn
      have := r.size_read hr
      (elements r false c2).map fun x => (a :: x.1, x.2)
termination_by c.size

theorem size_elements {α : Type} {r : Reader α} {first : Bool} {c c' : Cursor} {xs : List α}
    (h : elements r first c = .ok (xs, c')) : c'.size ≤ c.size := by
  fun_induction elements r first c generalizing xs with
  | case1 => cases h
  | case2 =>
    simp only [Except.ok.injEq, Prod.mk.injEq] at h
    exact h.2 ▸ Nat.le_refl _
  | case3 => cases h
  | case4 first c c1 hn a c2 hr h1 h2 ih =>
    obtain ⟨⟨xs', c3⟩, hx, e⟩ := map_eq_ok h
    simp only [Prod.mk.injEq] at e
    have := ih (e.2 ▸ hx)
    omega

/-- A list. -/
def listValue {α : Type} (r : Reader α) (c : Cursor) : Except Error (List α × Cursor) := do
  let (b, c) ← valueStart c
  if b = ascii '[' then do
    let (xs, c) ← elements r true c.advance
    let c ← endList c
    return (xs, c)
  else wrongType "a sequence" c

theorem size_listValue {α : Type} {r : Reader α} {c c' : Cursor} {xs : List α}
    (h : listValue r c = .ok (xs, c')) : c'.size < c.size := by
  simp only [listValue, bind, Except.bind, pure, Except.pure] at h
  split at h
  · cases h
  · rename_i v hv
    obtain ⟨h1, h2⟩ := size_valueStart hv
    split at h
    · split at h
      · cases h
      · rename_i w hw
        have h3 := size_elements hw
        simp only [Cursor.size_advance] at h3
        split at h
        · cases h
        · rename_i c3 hc3
          have h4 := size_endList hc3
          simp only [Except.ok.injEq, Prod.mk.injEq] at h
          rw [← h.2]; omega
    · exact absurd h wrongType_ne_ok

/-! ## Objects -/

/-- The cursor at the next key of an object, or none at its closing bracket. -/
def nextKey (first : Bool) (c : Cursor) : Except Error (Option Cursor) :=
  let c := c.skipBlanks
  match c.peek? with
  | none => c.failNext .endInObject
  | some b =>
    if b = ascii '\x7d' then .ok none
    else if first then
      if b = ascii '"' then .ok (some c) else c.failNext .keyNotString
    else if b = ascii ',' then
      let c := c.advance.skipBlanks
      match c.peek? with
      | none => c.failNext .endInValue
      | some b =>
        if b = ascii '"' then .ok (some c)
        else if b = ascii '\x7d' then c.failNext .trailingComma
        else c.failNext .keyNotString
    else c.failNext .expectedObjectEnd

theorem size_nextKey {first : Bool} {c c' : Cursor}
    (h : nextKey first c = .ok (some c')) : c'.size ≤ c.size := by
  have h0 := Cursor.size_skipBlanks c
  simp only [nextKey] at h
  split at h
  · simp [Cursor.failNext] at h
  · split at h
    · cases h
    · split at h
      · split at h
        · simp only [Except.ok.injEq, Option.some.injEq] at h
          rw [← h]; exact h0
        · simp [Cursor.failNext] at h
      · split at h
        · have h1 := Cursor.size_skipBlanks c.skipBlanks.advance
          simp only [Cursor.size_advance] at h1
          split at h
          · simp [Cursor.failNext] at h
          · split at h
            · simp only [Except.ok.injEq, Option.some.injEq] at h
              rw [← h]; omega
            · split at h <;> simp [Cursor.failNext] at h
        · simp [Cursor.failNext] at h

/-- The cursor behind the closing bracket of an object. -/
def endObject (c : Cursor) : Except Error Cursor :=
  let c := c.skipBlanks
  match c.peek? with
  | none => c.failNext .endInObject
  | some b =>
    if b = ascii '\x7d' then .ok c.advance
    else if b = ascii ',' then c.failNext .trailingComma
    else c.failNext .trailingCharacters

theorem size_endObject {c c' : Cursor} (h : endObject c = .ok c') : c'.size ≤ c.size := by
  have h0 := Cursor.size_skipBlanks c
  simp only [endObject] at h
  split at h
  · simp [Cursor.failNext] at h
  · split at h
    · simp only [Except.ok.injEq] at h
      rw [← h, Cursor.size_advance]; omega
    · split at h <;> simp [Cursor.failNext] at h

/-- The cursor behind the colon after a key. -/
def colon (c : Cursor) : Except Error Cursor :=
  let c := c.skipBlanks
  match c.peek? with
  | none => c.failNext .endInObject
  | some b => if b = ascii ':' then .ok c.advance else c.failNext .expectedColon

theorem size_colon {c c' : Cursor} (h : colon c = .ok c') : c'.size ≤ c.size := by
  have h0 := Cursor.size_skipBlanks c
  simp only [colon] at h
  split at h
  · simp [Cursor.failNext] at h
  · split at h
    · simp only [Except.ok.injEq] at h
      rw [← h, Cursor.size_advance]; omega
    · simp [Cursor.failNext] at h

/--
The error of a key that was given before. It is placed behind the key and the blanks after it,
and behind the closing bracket if that comes next.
-/
def repeatedKey {α : Type} (key : String) (c : Cursor) : Except Error α :=
  let c := c.skipBlanks
  (if c.peekD = ascii '\x7d' then c.advance else c).fail (.duplicateField key)

/-- A way to take the member of an object up into a record that is being filled. -/
structure MemberReader (σ : Type) where
  /-- The record with the member; the key has been read, the colon has not. -/
  read : σ → String → Cursor → Except Error (σ × Cursor)
  size_read : ∀ {s s' : σ} {key : String} {c c' : Cursor},
    read s key c = .ok (s', c') → c'.size ≤ c.size

/-- The record filled by the members of an object, whose opening bracket has been read. -/
def members {σ : Type} (r : MemberReader σ) (first : Bool) (s : σ) (c : Cursor) :
    Except Error (σ × Cursor) :=
  match hn : nextKey first c with
  | .error e => .error e
  | .ok none => .ok (s, c)
  | .ok (some c1) =>
    match hk : string c1.advance with
    | .error e => .error e
    | .ok (key, c2) =>
      match hr : r.read s key c2 with
      | .error e => .error e
      | .ok (s', c3) =>
        have := size_nextKey hn
        have := size_string hk
        have := r.size_read hr
        members r false s' c3
termination_by c.size
decreasing_by simp only [Cursor.size_advance] at *; omega

theorem size_members {σ : Type} {r : MemberReader σ} {first : Bool} {s s' : σ} {c c' : Cursor}
    (h : members r first s c = .ok (s', c')) : c'.size ≤ c.size := by
  fun_induction members r first s c with
  | case1 => cases h
  | case2 =>
    simp only [Except.ok.injEq, Prod.mk.injEq] at h
    exact h.2 ▸ Nat.le_refl _
  | case3 => cases h
  | case4 => cases h
  | case5 first s c c1 hn key c2 hk s1 c3 hr h1 h2 h3 ih =>
    have := ih h
    simp only [Cursor.size_advance] at h2; omega

end BulkSuppress.Json
