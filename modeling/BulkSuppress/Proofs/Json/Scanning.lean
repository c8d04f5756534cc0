import BulkSuppress.Json.Typed
import BulkSuppress.Proofs.Json.Unambiguous
import BulkSuppress.Proofs.Text.Octets

/-
  What a cursor passes over, told by the grammar. The cursor goes by bytes and the grammar by
  characters: a cursor stands at a text if the bytes of the text are left (`Cursor.At`), perhaps
  with blanks in front (`Cursor.Near`). Tests of bytes and of characters come to the same
  (`Agree`), as no character from 0x80 on has a byte below.

  From there, blanks, strings, numbers and words are passed up to where the grammar has them end. A
  string is read as the text whose code units are spelled (`string_of_body`); its characters are
  spelled in four ways each (`FirstSpelled`), among them by the escapes of two surrogates. A string
  that is skipped may also escape half of a pair (`skipString_of_body`).
-/

namespace BulkSuppress.Json

variable {c : Cursor} {x y : Char} {cs rest : List Char} {b : UInt8} {us vs : List Nat}

/-! ## Bytes of characters -/

/-- The bytes of a text that is given by its characters. -/
def bytes (cs : List Char) : List UInt8 := cs.flatMap String.utf8EncodeChar

theorem octets_ofList (cs : List Char) : Utf8.octets (String.ofList cs) = bytes cs := by
  rw [Utf8.octets_eq_flatMap, String.toList_ofList, bytes]

/-- A character below 0x80 is one byte. -/
theorem bytes_cons_ascii (h : x.toNat < 0x80) : bytes (x :: cs) = ascii x :: bytes cs := by
  rw [bytes, List.flatMap_cons, Utf8.utf8EncodeChar_of_lt h]
  rfl

/-- The first byte of any other character is none of these. -/
theorem exists_bytes_cons (h : 0x80 ≤ x.toNat) (cs : List Char) :
    ∃ b more, bytes (x :: cs) = b :: more ∧ 0x80 ≤ b := by
  obtain ⟨b, more, hb⟩ := List.exists_cons_of_ne_nil (String.utf8EncodeChar_ne_nil (c := x))
  refine ⟨b, more ++ bytes cs, by rw [bytes, List.flatMap_cons, hb]; rfl, ?_⟩
  exact Utf8.le_of_mem_utf8EncodeChar h (by rw [hb]; exact List.mem_cons_self)

/-- What holds of the characters below 0x80 by their numbers holds of them. -/
theorem forall_ascii {p : Char → Prop} (h : ∀ n < 0x80, p (Char.ofNat n)) (hx : x.toNat < 0x80) :
    p x := by
  have hp := h x.toNat hx
  rwa [Char.ofNat_toNat] at hp

theorem ascii_inj (hx : x.toNat < 0x80) (hy : y.toNat < 0x80) : ascii x = ascii y ↔ x = y := by
  refine ⟨fun h => ?_, fun h => by rw [h]⟩
  have hn := congrArg UInt8.toNat h
  simp only [ascii, Nat.toUInt8, UInt8.toNat_ofNat'] at hn
  exact Char.toNat_inj.1 (by omega)

/-- A test of bytes and a test of characters that come to the same below 0x80 and fail above. -/
structure Agree (f : UInt8 → Bool) (g : Char → Bool) : Prop where
  ascii : ∀ x, x.toNat < 0x80 → f (ascii x) = g x
  byte : ∀ b, 0x80 ≤ b → f b = false
  char : ∀ x, 0x80 ≤ x.toNat → g x = false

theorem agree_char (hy : y.toNat < 0x80) : Agree (· == ascii y) (· == y) where
  ascii x hx := by
    rw [Bool.eq_iff_iff, beq_iff_eq, beq_iff_eq, ascii_inj hx hy]
  byte b hb := by
    rw [beq_eq_false_iff_ne]
    rintro rfl
    have hle := UInt8.le_iff_toNat_le.1 hb
    simp only [ascii, Nat.toUInt8, UInt8.toNat_ofNat'] at hle
    have : (0x80 : UInt8).toNat = 0x80 := rfl
    omega
  char x hx := by
    rw [beq_eq_false_iff_ne]
    rintro rfl
    omega

theorem agree_digit : Agree isDigit Char.isDigit where
  ascii x hx := forall_ascii (p := fun x => isDigit (ascii x) = x.isDigit) (by decide) hx
  byte b hb := by
    have hle := UInt8.le_iff_toNat_le.1 hb
    have : (0x80 : UInt8).toNat = 0x80 := rfl
    simp only [isDigit, Bool.and_eq_false_imp, decide_eq_true_eq, decide_eq_false_iff_not,
      UInt8.le_iff_toNat_le]
    have : (0x39 : UInt8).toNat = 0x39 := rfl
    omega
  char x hx := by
    have hnine : '9'.toNat = 0x39 := rfl
    rw [← Bool.not_eq_true, Char.isDigit_iff_toNat]
    omega

theorem agree_blank : Agree Cursor.isBlankByte isSpace where
  ascii x hx := forall_ascii (p := fun x => Cursor.isBlankByte (ascii x) = isSpace x) (by decide) hx
  byte b hb := by
    rw [← Bool.not_eq_true]
    intro h
    simp only [Cursor.isBlankByte, Bool.or_eq_true, beq_iff_eq] at h
    rcases h with ((rfl | rfl) | rfl) | rfl <;> revert hb <;> decide
  char x hx := by
    rw [← Bool.not_eq_true]
    intro h
    simp only [isSpace, Bool.or_eq_true, beq_iff_eq] at h
    rcases h with ((rfl | rfl) | rfl) | rfl <;> revert hx <;> decide

theorem lt_of_isDigit (hx : x.isDigit = true) : x.toNat < 0x80 :=
  Nat.not_le.1 fun hle => Bool.false_ne_true ((agree_digit.char x hle).symm.trans hx)

/-! ## Cursors at texts -/

namespace Cursor

/-- The bytes that are left are those of the text. -/
def At (c : Cursor) (cs : List Char) : Prop := c.rest = bytes cs

/-- The cursor stands at the text, or at blanks in front of it. -/
def Near (c : Cursor) (cs : List Char) : Prop := ∃ front, c.At front ∧ Space front cs

theorem At.near (h : c.At cs) : c.Near cs := ⟨cs, h, .none cs⟩

theorem At.any_peek? {f : UInt8 → Bool} {g : Char → Bool} (h : c.At cs) (hfg : Agree f g) :
    c.peek?.any f = cs.head?.any g := by
  rw [peek?, h]
  cases cs with
  | nil => rfl
  | cons x cs =>
    rw [List.head?_cons, Option.any_some]
    by_cases hx : x.toNat < 0x80
    · rw [bytes_cons_ascii hx, List.head?_cons, Option.any_some, hfg.ascii x hx]
    · obtain ⟨b, more, hb, hle⟩ := exists_bytes_cons (Nat.not_lt.1 hx) cs
      rw [hb, List.head?_cons, Option.any_some, hfg.byte b hle, hfg.char x (Nat.not_lt.1 hx)]

theorem At.test_peekD {f : UInt8 → Bool} {g : Char → Bool} (h : c.At cs) (hfg : Agree f g)
    (hzero : f 0 = false) : f c.peekD = cs.head?.any g := by
  rw [← h.any_peek? hfg, peekD]
  cases c.peek? with
  | none => exact hzero
  | some b => rfl

/-- A character is told from those below 0x80 by its first byte. -/
theorem At.exists_peek? (h : c.At (x :: cs)) :
    ∃ b, c.peek? = some b ∧ ∀ {y : Char}, y.toNat < 0x80 → (b = ascii y ↔ x = y) := by
  obtain ⟨b, more, hb⟩ := List.exists_cons_of_ne_nil (String.utf8EncodeChar_ne_nil (c := x))
  have hpeek : c.peek? = some b := by
    rw [Cursor.peek?, h, bytes, List.flatMap_cons, hb]
    rfl
  refine ⟨b, hpeek, fun hy => ?_⟩
  have hany := h.any_peek? (agree_char hy)
  rw [hpeek, List.head?_cons, Option.any_some, Option.any_some] at hany
  rw [← beq_iff_eq, hany, beq_iff_eq]

theorem At.peek? (h : c.At (x :: cs)) (hx : x.toNat < 0x80) : c.peek? = some (ascii x) := by
  rw [Cursor.peek?, h, bytes_cons_ascii hx]
  rfl

theorem At.peekD (h : c.At (x :: cs)) (hx : x.toNat < 0x80) : c.peekD = ascii x := by
  rw [Cursor.peekD, h.peek? hx]
  rfl

theorem rest_advance (c : Cursor) : c.advance.rest = c.rest.tail := by
  obtain ⟨rest, p⟩ := c
  cases rest <;> rfl

theorem At.advance (h : c.At (x :: cs)) (hx : x.toNat < 0x80) : c.advance.At cs := by
  rw [At, rest_advance, h, bytes_cons_ascii hx]
  rfl

/-! ### Blanks -/

theorem skipBlanks_of_plain (h : c.peek?.any isBlankByte = false) : c.skipBlanks = c := by
  obtain ⟨rest, p⟩ := c
  cases rest with
  | nil => rfl
  | cons b rest =>
    rw [Cursor.peek?, List.head?_cons, Option.any_some] at h
    simp [skipBlanks, skipBlanks.go, h]

theorem skipBlanks_of_blank (h : c.peek?.any isBlankByte = true) :
    c.skipBlanks = c.advance.skipBlanks := by
  obtain ⟨rest, p⟩ := c
  cases rest with
  | nil => cases h
  | cons b rest =>
    rw [Cursor.peek?, List.head?_cons, Option.any_some] at h
    simp [skipBlanks, skipBlanks.go, h, Cursor.advance]

theorem At.skipBlanks (h : c.At cs) (hcs : StartsPlain cs) : c.skipBlanks = c := by
  refine skipBlanks_of_plain ?_
  rw [h.any_peek? agree_blank]
  cases cs with
  | nil => rfl
  | cons x cs => exact hcs x rfl

/-- Behind all blanks, the cursor stands at the text. -/
theorem Near.at_skipBlanks (h : c.Near cs) (hcs : StartsPlain cs) : c.skipBlanks.At cs := by
  obtain ⟨front, hfront, hspace⟩ := h
  induction hspace generalizing c with
  | none cs => rwa [hfront.skipBlanks hcs]
  | @more x front cs hx hspace ih =>
    have hblank : c.peek?.any isBlankByte = true := by
      rw [hfront.any_peek? agree_blank]
      exact hx
    rw [skipBlanks_of_blank hblank]
    exact ih hcs (hfront.advance (Nat.not_le.1 fun hle => by simp [agree_blank.char x hle] at hx))

theorem Near.trans (h : c.Near cs) (hspace : Space cs rest) : c.Near rest := by
  obtain ⟨front, hfront, hcs⟩ := h
  exact ⟨front, hfront, hcs.trans hspace⟩

theorem skipBlanks_skipBlanks (c : Cursor) : c.skipBlanks.skipBlanks = c.skipBlanks := by
  obtain ⟨rest, p⟩ := c
  induction rest generalizing p with
  | nil => rfl
  | cons b rest ih =>
    cases hb : isBlankByte b with
    | true =>
      rw [skipBlanks_of_blank (c := ⟨b :: rest, p⟩) hb]
      exact ih _
    | false =>
      have hplain := skipBlanks_of_plain (c := ⟨b :: rest, p⟩) hb
      rw [hplain, hplain]

end Cursor

/-! ## Strings -/

theorem stringBytes_of_peek? (h : c.peek? = some b) : stringBytes c =
    if b = 0x22 then .ok ([], c.advance)
    else if b = 0x5C then
      escape c.advance >>= fun r => (stringBytes r.2).map fun s => (r.1 ++ s.1, s.2)
    else if b < 0x20 then c.advance.fail .controlCharacter
    else (stringBytes c.advance).map fun s => (b :: s.1, s.2) := by
  rw [stringBytes]
  split <;> rename_i hp <;> cases h.symm.trans hp
  refine ite_congr rfl (fun _ => rfl) fun _ => ite_congr rfl (fun _ => ?_) fun _ => rfl
  split <;> rename_i he <;> simp only [he] <;> rfl

theorem stringBytes_quote (h : c.peek? = some 0x22) : stringBytes c = .ok ([], c.advance) := by
  rw [stringBytes_of_peek? h, if_pos rfl]

theorem stringBytes_escape {c' : Cursor} {bs : List UInt8} (h : c.peek? = some 0x5C)
    (hescape : escape c.advance = .ok (bs, c')) :
    stringBytes c = (stringBytes c').map fun r => (bs ++ r.1, r.2) := by
  rw [stringBytes_of_peek? h, if_neg (by decide), if_pos rfl, hescape]
  rfl

/-- The byte is taken into a string as it is. -/
def IsPlainByte (b : UInt8) : Prop := b ≠ 0x22 ∧ b ≠ 0x5C ∧ ¬ b < 0x20

theorem stringBytes_plain (h : c.peek? = some b) (hb : IsPlainByte b) :
    stringBytes c = (stringBytes c.advance).map fun r => (b :: r.1, r.2) := by
  rw [stringBytes_of_peek? h, if_neg hb.1, if_neg hb.2.1, if_neg hb.2.2]

/-! ### Code units -/

/-- A character is one code unit that is no surrogate, or a pair of surrogates. -/
theorem unitsOf_cases (x : Char) :
    (unitsOf x = [x.toNat] ∧ isLeading x.toNat = false ∧ isTrailing x.toNat = false) ∨
      ∃ high low, unitsOf x = [high, low] ∧ isLeading high = true ∧ isTrailing low = true ∧
        0x10000 + (high - 0xD800) * 0x400 + (low - 0xDC00) = x.toNat := by
  have hvalid : x.toNat < 0xD800 ∨ 0xDFFF < x.toNat ∧ x.toNat < 0x110000 := x.valid
  simp only [unitsOf, isLeading, isTrailing, Bool.and_eq_true, Bool.and_eq_false_imp,
    decide_eq_true_eq, decide_eq_false_iff_not]
  split
  · exact .inl ⟨rfl, by omega, by omega⟩
  · exact .inr ⟨_, _, rfl, by omega, by omega, by omega⟩

theorem isLeading_of_isTrailing {n : Nat} (h : isTrailing n = true) : isLeading n = false := by
  simp only [isLeading, isTrailing, Bool.and_eq_true, Bool.and_eq_false_imp, decide_eq_true_eq,
    decide_eq_false_iff_not] at *
  omega

theorem isTrailing_of_isLeading {n : Nat} (h : isLeading n = true) : isTrailing n = false := by
  rw [← Bool.not_eq_true]
  intro htrailing
  rw [isLeading_of_isTrailing htrailing] at h
  cases h

/-- The first code unit of a character is no second half of a pair. -/
theorem isTrailing_of_unitsOf {n : Nat} {us vs : List Nat} (h : unitsOf x ++ us = n :: vs) :
    isTrailing n = false := by
  rcases unitsOf_cases x with ⟨hx, -, hn⟩ | ⟨high, low, hx, hhigh, -, -⟩
  · rw [hx] at h
    cases h
    exact hn
  · rw [hx] at h
    cases h
    exact isTrailing_of_isLeading hhigh

/-- A character is told by its code units, whatever comes behind them. -/
theorem unitsOf_append_inj {us vs : List Nat} (h : unitsOf x ++ us = unitsOf y ++ vs) :
    x = y ∧ us = vs := by
  rcases unitsOf_cases x with ⟨hx, hxlead, -⟩ | ⟨high, low, hx, hhigh, -, hnum⟩
  · rcases unitsOf_cases y with ⟨hy, -, -⟩ | ⟨high', low', hy, hhigh', -, -⟩
    · rw [hx, hy, List.singleton_append, List.singleton_append, List.cons.injEq] at h
      exact ⟨Char.toNat_inj.1 h.1, h.2⟩
    · rw [hx, hy, List.singleton_append, List.cons_append, List.cons.injEq] at h
      rw [h.1, hhigh'] at hxlead
      cases hxlead
  · rcases unitsOf_cases y with ⟨hy, hylead, -⟩ | ⟨high', low', hy, -, -, hnum'⟩
    · rw [hx, hy, List.singleton_append, List.cons_append, List.cons.injEq] at h
      rw [← h.1, hhigh] at hylead
      cases hylead
    · rw [hx, hy] at h
      simp only [List.cons_append, List.nil_append, List.cons.injEq] at h
      obtain ⟨rfl, rfl, rfl⟩ := h
      exact ⟨Char.toNat_inj.1 (hnum.symm.trans hnum'), rfl⟩

theorem unitsOf_ne_nil (x : Char) : unitsOf x ≠ [] := by
  rcases unitsOf_cases x with ⟨h, -⟩ | ⟨high, low, h, -⟩ <;> simp [h]

theorem flatMap_unitsOf_inj {xs ys : List Char} (h : xs.flatMap unitsOf = ys.flatMap unitsOf) :
    xs = ys := by
  induction xs generalizing ys with
  | nil =>
    cases ys with
    | nil => rfl
    | cons y ys => exact absurd (List.append_eq_nil_iff.1 h.symm).1 (unitsOf_ne_nil y)
  | cons x xs ih =>
    cases ys with
    | nil => exact absurd (List.append_eq_nil_iff.1 h).1 (unitsOf_ne_nil x)
    | cons y ys =>
      obtain ⟨rfl, hrest⟩ := unitsOf_append_inj h
      rw [ih hrest]

/-- A text is told by its code units. -/
theorem units_inj {s t : String} (h : units s = units t) : s = t :=
  String.toList_inj.1 (flatMap_unitsOf_inj h)

/-- The code unit is a character by itself. -/
def isScalar (u : Nat) : Bool := u < 0xD800 || (0xE000 ≤ u && u < 0x10000)

/-- The character of a surrogate pair. -/
def pairOf (high low : Nat) : Char :=
  Char.ofNat (0x10000 + (high - 0xD800) * 0x400 + (low - 0xDC00))

/-- The characters that code units are; half of a pair is none. -/
def charsOf? : List Nat → Option (List Char)
  | [] => some []
  | [u] => if isScalar u then some [Char.ofNat u] else none
  | u :: v :: us =>
    if isScalar u then (charsOf? (v :: us)).map (Char.ofNat u :: ·)
    else if isLeading u && isTrailing v then (charsOf? us).map (pairOf u v :: ·)
    else none

theorem toNat_ofNat {n : Nat} (h : n.isValidChar) : (Char.ofNat n).toNat = n := by
  rw [Char.ofNat, dif_pos h]
  rfl

theorem unitsOf_scalar {u : Nat} (h : isScalar u = true) : unitsOf (Char.ofNat u) = [u] := by
  have hu : u < 0xD800 ∨ 0xE000 ≤ u ∧ u < 0x10000 := by simpa [isScalar] using h
  have hvalid : u.isValidChar := by
    unfold Nat.isValidChar
    omega
  rw [unitsOf, toNat_ofNat hvalid, if_pos (by omega)]

theorem unitsOf_pairOf {high low : Nat} (hhigh : isLeading high = true)
    (hlow : isTrailing low = true) : unitsOf (pairOf high low) = [high, low] := by
  have hh : 0xD800 ≤ high ∧ high ≤ 0xDBFF := by simpa [isLeading] using hhigh
  have hl : 0xDC00 ≤ low ∧ low ≤ 0xDFFF := by simpa [isTrailing] using hlow
  have hvalid : (0x10000 + (high - 0xD800) * 0x400 + (low - 0xDC00)).isValidChar := by
    unfold Nat.isValidChar
    omega
  rw [unitsOf, pairOf, toNat_ofNat hvalid, if_neg (by omega), List.cons.injEq, List.cons.injEq]
  exact ⟨by omega, by omega, rfl⟩

theorem isScalar_toNat (hx : unitsOf x = [x.toNat]) : isScalar x.toNat = true := by
  have hvalid : x.toNat < 0xD800 ∨ 0xDFFF < x.toNat ∧ x.toNat < 0x110000 := x.valid
  have hlt : x.toNat < 0x10000 := Nat.not_le.1 fun hle => by
    rw [unitsOf, if_neg (Nat.not_lt.2 hle)] at hx
    exact absurd (List.cons.inj hx).2 (List.cons_ne_nil _ _)
  simp only [isScalar, Bool.or_eq_true, Bool.and_eq_true, decide_eq_true_eq]
  omega

theorem isScalar_of_isLeading {n : Nat} (h : isLeading n = true) : isScalar n = false := by
  simp only [isLeading, Bool.and_eq_true, decide_eq_true_eq] at h
  simp only [isScalar, Bool.or_eq_false_iff, Bool.and_eq_false_imp, decide_eq_true_eq,
    decide_eq_false_iff_not]
  omega

theorem charsOf?_unitsOf_append (x : Char) (us : List Nat) :
    charsOf? (unitsOf x ++ us) = (charsOf? us).map (x :: ·) := by
  rcases unitsOf_cases x with ⟨hx, -, -⟩ | ⟨high, low, hx, hhigh, hlow, hnum⟩
  · rw [hx]
    cases us <;> simp [charsOf?, isScalar_toNat hx]
  · rw [hx]
    simp [charsOf?, isScalar_of_isLeading hhigh, hhigh, hlow, pairOf, hnum]

/-- What is decoded is what the characters were encoded to. -/
theorem charsOf?_eq_some_iff {xs : List Char} :
    charsOf? us = some xs ↔ us = xs.flatMap unitsOf := by
  constructor
  · intro h
    fun_induction charsOf? us generalizing xs with
    | case1 =>
      cases h
      rfl
    | case2 u hu =>
      cases h
      simp [unitsOf_scalar hu]
    | case3 => cases h
    | case4 u v us hu ih =>
      obtain ⟨ys, hys, rfl⟩ := Option.map_eq_some_iff.1 h
      rw [List.flatMap_cons, unitsOf_scalar hu, ← ih hys]
      rfl
    | case5 u v us hu hpair ih =>
      obtain ⟨ys, hys, rfl⟩ := Option.map_eq_some_iff.1 h
      rw [Bool.and_eq_true] at hpair
      rw [List.flatMap_cons, unitsOf_pairOf hpair.1 hpair.2, ← ih hys]
      rfl
    | case6 => cases h
  · rintro rfl
    induction xs with
    | nil => rfl
    | cons x xs ih => rw [List.flatMap_cons, charsOf?_unitsOf_append, ih, Option.map_some]

/-- The text that code units are, if they are one. -/
def textOf? (us : List Nat) : Option String := (charsOf? us).map String.ofList

theorem textOf?_eq_some_iff {s : String} : textOf? us = some s ↔ us = units s := by
  rw [textOf?, Option.map_eq_some_iff, units]
  constructor
  · rintro ⟨xs, hxs, rfl⟩
    rw [String.toList_ofList]
    exact charsOf?_eq_some_iff.1 hxs
  · rintro rfl
    exact ⟨s.toList, charsOf?_eq_some_iff.2 rfl, String.ofList_toList⟩

@[simp] theorem textOf?_units (s : String) : textOf? (units s) = some s :=
  textOf?_eq_some_iff.2 rfl

theorem Body.eq_of_nil (h : Body us cs rest) (hus : us = []) : cs = '"' :: rest := by
  cases h with
  | close => rfl
  | plain => exact absurd (List.append_eq_nil_iff.1 hus).1 (unitsOf_ne_nil _)
  | short => cases hus
  | code => cases hus

/-- Only an escape with digits stands for the second half of a pair. -/
theorem Body.of_trailing {n : Nat} (h : Body us cs rest) (hus : us = n :: vs)
    (hn : isTrailing n = true) :
    ∃ a b c d cs', cs = '\\' :: 'u' :: a :: b :: c :: d :: cs' ∧ hexDigits? a b c d = some n ∧
      Body vs cs' rest := by
  cases h with
  | close => cases hus
  | plain => rw [isTrailing_of_unitsOf hus] at hn; cases hn
  | short he =>
    cases hus
    have hno : ∀ p ∈ shortEscapes, isTrailing p.2 = false := by decide
    rw [hno _ he] at hn
    cases hn
  | code hu h =>
    cases hus
    exact ⟨_, _, _, _, _, rfl, hu, h⟩

/-- The first character of a string: itself, a short escape, an escape with digits, or two. -/
inductive FirstSpelled (x : Char) (us : List Nat) (rest : List Char) : List Char → Prop
  | plain {cs : List Char} (hc : 0x20 ≤ x.toNat) (hq : x ≠ '"') (hb : x ≠ '\\')
      (h : Body us cs rest) : FirstSpelled x us rest (x :: cs)
  | short {e : Char} {cs : List Char} (he : (e, x.toNat) ∈ shortEscapes) (h : Body us cs rest) :
      FirstSpelled x us rest ('\\' :: e :: cs)
  | code {a b c d : Char} {cs : List Char} (hx : hexDigits? a b c d = some x.toNat)
      (hlead : isLeading x.toNat = false) (htrail : isTrailing x.toNat = false)
      (h : Body us cs rest) : FirstSpelled x us rest ('\\' :: 'u' :: a :: b :: c :: d :: cs)
  | pair {a b c d a' b' c' d' : Char} {high low : Nat} {cs : List Char}
      (hhigh : hexDigits? a b c d = some high) (hlow : hexDigits? a' b' c' d' = some low)
      (hlead : isLeading high = true) (htrail : isTrailing low = true)
      (hx : 0x10000 + (high - 0xD800) * 0x400 + (low - 0xDC00) = x.toNat)
      (h : Body us cs rest) : FirstSpelled x us rest ('\\' :: 'u' :: a :: b :: c :: d ::
        '\\' :: 'u' :: a' :: b' :: c' :: d' :: cs)

/-- Each character of a string is spelled in one of four ways. -/
theorem Body.firstSpelled {vs : List Nat} (h : Body vs cs rest) (hvs : vs = unitsOf x ++ us) :
    FirstSpelled x us rest cs := by
  cases h with
  | close => exact absurd (List.append_eq_nil_iff.1 hvs.symm).1 (unitsOf_ne_nil x)
  | plain hc hq hb h =>
    obtain ⟨rfl, rfl⟩ := unitsOf_append_inj hvs
    exact .plain hc hq hb h
  | @short e u us' cs' _ he h =>
    rcases unitsOf_cases x with ⟨hx, -, -⟩ | ⟨high, low, hx, hhigh, -, -⟩
    · rw [hx, List.singleton_append, List.cons.injEq] at hvs
      obtain ⟨rfl, rfl⟩ := hvs
      exact .short he h
    · rw [hx, List.cons_append, List.cons.injEq] at hvs
      have hno : ∀ p ∈ shortEscapes, isLeading p.2 = false := by decide
      rw [← hvs.1, hno _ he] at hhigh
      cases hhigh
  | code hu h =>
    rcases unitsOf_cases x with ⟨hx, hlead, htrail⟩ | ⟨high, low, hx, hhigh, hlow, hnum⟩
    · rw [hx, List.singleton_append, List.cons.injEq] at hvs
      obtain ⟨rfl, rfl⟩ := hvs
      exact .code hu hlead htrail h
    · rw [hx] at hvs
      simp only [List.cons_append, List.nil_append, List.cons.injEq] at hvs
      obtain ⟨rfl, hvs⟩ := hvs
      obtain ⟨a, b, c, d, cs', rfl, hu', h'⟩ := h.of_trailing hvs hlow
      exact .pair hu hu' hhigh hlow hnum h'

/-! ### Escapes -/

/-- A hexadecimal digit is below 0x80, and its byte has its value. -/
theorem hexValue?_of_hexDigit? {n : Nat} (h : hexDigit? x = some n) :
    x.toNat < 0x80 ∧ hexValue? (ascii x) = some n := by
  have hlt : x.toNat < 0x80 := by
    have hle {y : Char} (hy : y.toNat < 0x80) (hxy : x ≤ y) : x.toNat < 0x80 := by
      have := UInt32.le_iff_toNat_le.1 (Char.le_def.1 hxy)
      exact Nat.lt_of_le_of_lt this hy
    unfold hexDigit? at h
    split at h
    · rename_i hx
      exact hle (by decide) hx.2
    split at h
    · rename_i hx
      exact hle (by decide) hx.2
    split at h
    · rename_i hx
      exact hle (by decide) hx.2
    · cases h
  refine ⟨hlt, ?_⟩
  rw [← h]
  exact forall_ascii (p := fun x => hexValue? (ascii x) = hexDigit? x) (by decide) hlt

theorem hexEscape_of_digits {a b d e : Char} {n : Nat} (hn : hexDigits? a b d e = some n)
    (h : c.At (a :: b :: d :: e :: cs)) : ∃ c', hexEscape c = .ok (n, c') ∧ c'.At cs := by
  simp only [hexDigits?, Option.bind_eq_bind, Option.pure_def, Option.bind_eq_some_iff] at hn
  obtain ⟨na, ha, nb, hb, nd, hd, ne, he, hnum⟩ := hn
  obtain ⟨hlta, hva⟩ := hexValue?_of_hexDigit? ha
  obtain ⟨hltb, hvb⟩ := hexValue?_of_hexDigit? hb
  obtain ⟨hltd, hvd⟩ := hexValue?_of_hexDigit? hd
  obtain ⟨hlte, hve⟩ := hexValue?_of_hexDigit? he
  have hrest : c.rest = ascii a :: ascii b :: ascii d :: ascii e :: bytes cs := by
    rw [show c.rest = _ from h, bytes_cons_ascii hlta, bytes_cons_ascii hltb,
      bytes_cons_ascii hltd, bytes_cons_ascii hlte]
  refine ⟨c.advanceBy 4, ?_, (((h.advance hlta).advance hltb).advance hltd).advance hlte⟩
  rw [hexEscape, hrest]
  simpa [hexValue4?, hva, hvb, hvd, hve] using hnum

theorem bytesOf_toNat (x : Char) : bytesOf x.toNat = String.utf8EncodeChar x := by
  rw [bytesOf, Char.ofNat_toNat, ← Utf8.octets, Utf8.octets_eq_flatMap]
  simp

/-- The letter of a short escape is below 0x80, and so is what it stands for. -/
theorem letterEscape?_of_mem : ∀ p ∈ shortEscapes, p.1.toNat < 0x80 ∧ p.2 < 0x80 ∧
    ascii p.1 ≠ 0x75 ∧ letterEscape? (ascii p.1) = some p.2.toUInt8 := by
  decide

theorem escape_letter {y : UInt8} (h : c.peek? = some b) (hb : b ≠ 0x75)
    (hy : letterEscape? b = some y) :
    escape c = .ok ([y], c.advance) ∧ skipEscape c = .ok c.advance := by
  constructor
  · unfold escape
    split <;> rename_i hp
    · rw [h] at hp
      cases hp
    · exact absurd (Option.some.inj (h.symm.trans hp)) hb
    · cases h.symm.trans hp
      rw [hy]
  · unfold skipEscape
    split <;> rename_i hp
    · rw [h] at hp
      cases hp
    · exact absurd (Option.some.inj (h.symm.trans hp)) hb
    · cases h.symm.trans hp
      rw [hy]

theorem escape_short {e : Char} (he : (e, x.toNat) ∈ shortEscapes) (h : c.At (e :: cs)) :
    ∃ c', escape c = .ok (String.utf8EncodeChar x, c') ∧ c'.At cs := by
  obtain ⟨hlt, hx, hne, hletter⟩ := letterEscape?_of_mem _ he
  refine ⟨c.advance, ?_, h.advance hlt⟩
  rw [Utf8.utf8EncodeChar_of_lt hx]
  exact (escape_letter (h.peek? hlt) hne hletter).1

theorem escape_unicode (h : c.At ('u' :: cs)) : escape c = unicodeEscape c.advance := by
  have hpeek : c.peek? = some 0x75 := h.peek? (by decide)
  rw [escape, hpeek]
  rfl

theorem escape_code {a b d e : Char} (hn : hexDigits? a b d e = some x.toNat)
    (hlead : isLeading x.toNat = false) (htrail : isTrailing x.toNat = false)
    (h : c.At ('u' :: a :: b :: d :: e :: cs)) :
    ∃ c', escape c = .ok (String.utf8EncodeChar x, c') ∧ c'.At cs := by
  obtain ⟨c', hhex, hc'⟩ := hexEscape_of_digits hn (h.advance (by decide))
  refine ⟨c', ?_, hc'⟩
  rw [escape_unicode h]
  simp [unicodeEscape, hhex, bind, Except.bind, hlead, htrail, bytesOf_toNat, pure, Except.pure]

theorem pairByte_at {y : Char} (hy : y.toNat < 0x80) (h : c.At (y :: cs)) :
    pairByte (ascii y) c = .ok c.advance := by
  rw [pairByte, h.peek? hy]
  simp

theorem escape_pair {a b d e a' b' d' e' : Char} {high low : Nat}
    (hhigh : hexDigits? a b d e = some high) (hlow : hexDigits? a' b' d' e' = some low)
    (hlead : isLeading high = true) (htrail : isTrailing low = true)
    (hx : 0x10000 + (high - 0xD800) * 0x400 + (low - 0xDC00) = x.toNat)
    (h : c.At ('u' :: a :: b :: d :: e :: '\\' :: 'u' :: a' :: b' :: d' :: e' :: cs)) :
    ∃ c', escape c = .ok (String.utf8EncodeChar x, c') ∧ c'.At cs := by
  obtain ⟨c1, hhex, hc1⟩ := hexEscape_of_digits hhigh (h.advance (by decide))
  have hslash : pairByte 0x5C c1 = .ok c1.advance := pairByte_at (by decide) hc1
  have hc2 := hc1.advance (by decide)
  have hu : pairByte 0x75 c1.advance = .ok c1.advance.advance := pairByte_at (by decide) hc2
  obtain ⟨c3, hhex', hc3⟩ := hexEscape_of_digits hlow (hc2.advance (by decide))
  have hnot := isTrailing_of_isLeading hlead
  refine ⟨c3, ?_, hc3⟩
  rw [escape_unicode h]
  simp [unicodeEscape, hhex, hslash, hu, hhex', bind, Except.bind, hlead, htrail, hnot, hx,
    bytesOf_toNat, pure, Except.pure]

/-! ### Reading and skipping strings -/

/-- A character that may stand in a string as it is comes in bytes that may. -/
theorem isPlainByte_of_mem (hc : 0x20 ≤ x.toNat) (hq : x ≠ '"') (hb : x ≠ '\\') :
    ∀ b ∈ String.utf8EncodeChar x, IsPlainByte b := by
  intro b hmem
  by_cases hx : x.toNat < 0x80
  · rw [Utf8.utf8EncodeChar_of_lt hx, List.mem_singleton] at hmem
    subst hmem
    refine ⟨fun h => hq ((ascii_inj hx (by decide)).1 h), fun h =>
      hb ((ascii_inj hx (by decide)).1 h), fun h => ?_⟩
    have hlt := UInt8.lt_iff_toNat_lt.1 h
    simp only [UInt8.toNat_ofNat'] at hlt
    have : (0x20 : UInt8).toNat = 0x20 := rfl
    omega
  · have hle := UInt8.le_iff_toNat_le.1 (Utf8.le_of_mem_utf8EncodeChar (Nat.not_lt.1 hx) hmem)
    refine ⟨?_, ?_, fun h => ?_⟩
    · rintro rfl
      exact absurd hle (by decide)
    · rintro rfl
      exact absurd hle (by decide)
    · have hlt := UInt8.lt_iff_toNat_lt.1 h
      have : (0x20 : UInt8).toNat = 0x20 := rfl
      have : (0x80 : UInt8).toNat = 0x80 := rfl
      omega

theorem stringBytes_append {bs more : List UInt8} (hbs : ∀ b ∈ bs, IsPlainByte b)
    (h : c.rest = bs ++ more) :
    ∃ c', c'.rest = more ∧ stringBytes c = (stringBytes c').map fun r => (bs ++ r.1, r.2) := by
  induction bs generalizing c with
  | nil =>
    refine ⟨c, h, ?_⟩
    cases stringBytes c <;> rfl
  | cons b bs ih =>
    rw [List.forall_mem_cons] at hbs
    have hpeek : c.peek? = some b := by rw [Cursor.peek?, h]; rfl
    obtain ⟨c', hc', hread⟩ := ih hbs.2 (c := c.advance) (by rw [Cursor.rest_advance, h]; rfl)
    refine ⟨c', hc', ?_⟩
    rw [stringBytes_plain hpeek hbs.1, hread]
    cases stringBytes c' <;> rfl

/-- The first character of a string is read, and the cursor is left at the others. -/
theorem stringBytes_of_firstSpelled (h : FirstSpelled x us rest cs) (hc : c.At cs) :
    ∃ c' cs', Body us cs' rest ∧ c'.At cs' ∧
      stringBytes c = (stringBytes c').map fun r => (String.utf8EncodeChar x ++ r.1, r.2) := by
  have hstart {cs : List Char} (hc : c.At ('\\' :: cs)) :
      c.peek? = some 0x5C ∧ c.advance.At cs := ⟨hc.peek? (by decide), hc.advance (by decide)⟩
  cases h with
  | @plain cs hctl hq hb h =>
    have hrest : c.rest = String.utf8EncodeChar x ++ bytes cs := hc
    obtain ⟨c', hc', hread⟩ := stringBytes_append (isPlainByte_of_mem hctl hq hb) hrest
    exact ⟨c', cs, h, hc', hread⟩
  | short he h =>
    obtain ⟨hpeek, hadvance⟩ := hstart hc
    obtain ⟨c', hescape, hc'⟩ := escape_short he hadvance
    exact ⟨c', _, h, hc', stringBytes_escape hpeek hescape⟩
  | code hx hlead htrail h =>
    obtain ⟨hpeek, hadvance⟩ := hstart hc
    obtain ⟨c', hescape, hc'⟩ := escape_code hx hlead htrail hadvance
    exact ⟨c', _, h, hc', stringBytes_escape hpeek hescape⟩
  | pair hhigh hlow hlead htrail hx h =>
    obtain ⟨hpeek, hadvance⟩ := hstart hc
    obtain ⟨c', hescape, hc'⟩ := escape_pair hhigh hlow hlead htrail hx hadvance
    exact ⟨c', _, h, hc', stringBytes_escape hpeek hescape⟩

/-- The characters of a string are read, however they are spelled. -/
theorem stringBytes_of_body {xs : List Char} (h : Body (xs.flatMap unitsOf) cs rest)
    (hc : c.At cs) : ∃ c', stringBytes c = .ok (bytes xs, c') ∧ c'.At rest := by
  induction xs generalizing c cs with
  | nil =>
    cases h.eq_of_nil rfl
    exact ⟨c.advance, stringBytes_quote (hc.peek? (by decide)), hc.advance (by decide)⟩
  | cons x xs ih =>
    obtain ⟨c1, cs1, hbody, hc1, hread⟩ := stringBytes_of_firstSpelled (h.firstSpelled rfl) hc
    obtain ⟨c', hrest, hc'⟩ := ih hbody hc1
    exact ⟨c', by rw [hread, hrest]; rfl, hc'⟩

/-- A text is read as the text that it spells. -/
theorem string_of_body {s : String} (h : Body (units s) cs rest) (hc : c.At cs) :
    ∃ c', string c = .ok (s, c') ∧ c'.At rest := by
  obtain ⟨c', hread, hc'⟩ := stringBytes_of_body h hc
  refine ⟨c', ?_, hc'⟩
  have hdecode : Utf8.decode? ⟨(bytes s.toList).toArray⟩ = some s := by
    rw [← octets_ofList, Utf8.decode?_octets, String.ofList_toList]
  simp [string, hread, hdecode, bind, Except.bind, pure, Except.pure]

theorem skipString_of_peek? (h : c.peek? = some b) : skipString c =
    if b = 0x22 then .ok c.advance
    else if b = 0x5C then skipEscape c.advance >>= skipString
    else if b < 0x20 then c.fail .controlCharacter
    else skipString c.advance := by
  rw [skipString]
  split <;> rename_i hp <;> cases h.symm.trans hp
  refine ite_congr rfl (fun _ => rfl) fun _ => ite_congr rfl (fun _ => ?_) fun _ => rfl
  split <;> rename_i he <;> simp only [he] <;> rfl

theorem skipString_quote (h : c.peek? = some 0x22) : skipString c = .ok c.advance := by
  rw [skipString_of_peek? h, if_pos rfl]

theorem skipString_escape {c' : Cursor} (h : c.peek? = some 0x5C)
    (hescape : skipEscape c.advance = .ok c') : skipString c = skipString c' := by
  rw [skipString_of_peek? h, if_neg (by decide), if_pos rfl, hescape]
  rfl

theorem skipString_plain (h : c.peek? = some b) (hb : IsPlainByte b) :
    skipString c = skipString c.advance := by
  rw [skipString_of_peek? h, if_neg hb.1, if_neg hb.2.1, if_neg hb.2.2]

theorem skipString_append {bs more : List UInt8} (hbs : ∀ b ∈ bs, IsPlainByte b)
    (h : c.rest = bs ++ more) : ∃ c', c'.rest = more ∧ skipString c = skipString c' := by
  induction bs generalizing c with
  | nil => exact ⟨c, h, rfl⟩
  | cons b bs ih =>
    rw [List.forall_mem_cons] at hbs
    have hpeek : c.peek? = some b := by rw [Cursor.peek?, h]; rfl
    obtain ⟨c', hc', hread⟩ := ih hbs.2 (c := c.advance) (by rw [Cursor.rest_advance, h]; rfl)
    exact ⟨c', hc', (skipString_plain hpeek hbs.1).trans hread⟩

theorem skipEscape_short {e : Char} {u : Nat} (he : (e, u) ∈ shortEscapes) (h : c.At (e :: cs)) :
    ∃ c', skipEscape c = .ok c' ∧ c'.At cs := by
  obtain ⟨hlt, -, hne, hletter⟩ := letterEscape?_of_mem _ he
  exact ⟨c.advance, (escape_letter (h.peek? hlt) hne hletter).2, h.advance hlt⟩

theorem skipEscape_code {a b d e : Char} {n : Nat} (hn : hexDigits? a b d e = some n)
    (h : c.At ('u' :: a :: b :: d :: e :: cs)) : ∃ c', skipEscape c = .ok c' ∧ c'.At cs := by
  obtain ⟨c', hhex, hc'⟩ := hexEscape_of_digits hn (h.advance (by decide))
  refine ⟨c', ?_, hc'⟩
  have hpeek : c.peek? = some 0x75 := h.peek? (by decide)
  rw [skipEscape, hpeek]
  simp [hhex, Except.map]

/-- A string is passed over, also where it escapes half of a pair. -/
theorem skipString_of_body (h : Body us cs rest) (hc : c.At cs) :
    ∃ c', skipString c = .ok c' ∧ c'.At rest := by
  have hstart {cs : List Char} {c : Cursor} (hc : c.At ('\\' :: cs)) :
      c.peek? = some 0x5C ∧ c.advance.At cs := ⟨hc.peek? (by decide), hc.advance (by decide)⟩
  induction h generalizing c with
  | close => exact ⟨c.advance, skipString_quote (hc.peek? (by decide)), hc.advance (by decide)⟩
  | @plain x us cs rest hctl hq hb h ih =>
    have hrest : c.rest = String.utf8EncodeChar x ++ bytes cs := hc
    obtain ⟨c1, hc1, hskip⟩ := skipString_append (isPlainByte_of_mem hctl hq hb) hrest
    rw [hskip]
    exact ih hc1
  | short he h ih =>
    obtain ⟨hpeek, hadvance⟩ := hstart hc
    obtain ⟨c1, hskip, hc1⟩ := skipEscape_short he hadvance
    rw [skipString_escape hpeek hskip]
    exact ih hc1
  | code hu h ih =>
    obtain ⟨hpeek, hadvance⟩ := hstart hc
    obtain ⟨c1, hskip, hc1⟩ := skipEscape_code hu hadvance
    rw [skipString_escape hpeek hskip]
    exact ih hc1

/-! ## Numbers -/

/-- The text does not begin with a digit. -/
def NoDigit (cs : List Char) : Prop := cs.head?.any Char.isDigit = false

theorem passDigits_of_digit (h : c.peek?.any isDigit = true) :
    passDigits c = ((passDigits c.advance).1 + 1, (passDigits c.advance).2) := by
  obtain ⟨rest, p⟩ := c
  cases rest with
  | nil => cases h
  | cons b rest =>
    rw [Cursor.peek?, List.head?_cons, Option.any_some] at h
    simp [passDigits, passDigits.go, h, Cursor.advance]

theorem passDigits_of_noDigit (h : c.peek?.any isDigit = false) : passDigits c = (0, c) := by
  obtain ⟨rest, p⟩ := c
  cases rest with
  | nil => rfl
  | cons b rest =>
    rw [Cursor.peek?, List.head?_cons, Option.any_some] at h
    simp [passDigits, passDigits.go, h]

/-- Digits are passed up to the first character that is none. -/
theorem passDigits_append {ds : List Char} (hds : ∀ x ∈ ds, x.isDigit = true)
    (hrest : NoDigit rest) (h : c.At (ds ++ rest)) :
    ∃ c', passDigits c = (ds.length, c') ∧ c'.At rest := by
  induction ds generalizing c with
  | nil => exact ⟨c, passDigits_of_noDigit ((h.any_peek? agree_digit).trans hrest), h⟩
  | cons x ds ih =>
    rw [List.forall_mem_cons] at hds
    have hx : x.toNat < 0x80 := lt_of_isDigit hds.1
    obtain ⟨c', hpass, hc'⟩ := ih hds.2 (h.advance hx)
    have hdigit : c.peek?.any isDigit = true := (h.any_peek? agree_digit).trans hds.1
    exact ⟨c', by rw [passDigits_of_digit hdigit, hpass]; rfl, hc'⟩

theorem Cursor.At.peekD_beq (h : c.At cs) (hy : y.toNat < 0x80) (hzero : ascii y ≠ 0) :
    (c.peekD == ascii y) = cs.head?.any (· == y) :=
  h.test_peekD (agree_char hy) (beq_eq_false_iff_ne.2 hzero.symm)

/-- What ends a number begins with no character of a number. -/
theorem EndsNumber.any_head? {g : Char → Bool} (h : EndsNumber rest)
    (hg : ∀ x, g x = true → isNumeric x = true) : rest.head?.any g = false := by
  cases rest with
  | nil => rfl
  | cons x rest =>
    rw [List.head?_cons, Option.any_some, ← Bool.not_eq_true]
    exact fun hx => Bool.false_ne_true ((h x rfl).symm.trans (hg x hx))

theorem any_head?_of_digit {g : Char → Bool} {ds more : List Char} (hds : IsDigits ds)
    (hg : ∀ x, x.isDigit = true → g x = false) : (ds ++ more).head?.any g = false := by
  obtain ⟨x, ds, rfl⟩ := List.exists_cons_of_ne_nil hds.1
  exact hg x (hds.2 x List.mem_cons_self)

theorem isNumeric_of_isDigit (h : x.isDigit = true) : isNumeric x = true := by
  simp [isNumeric, h]

theorem ne_of_isDigit (hy : y.isDigit = false) (h : x.isDigit = true) : (x == y) = false := by
  rw [beq_eq_false_iff_ne]
  rintro rfl
  rw [hy] at h
  cases h

theorem skipSign_of_sign {sign ds : List Char} (hsign : sign = [] ∨ sign = ['+'] ∨ sign = ['-'])
    (hds : IsDigits ds) (h : c.At (sign ++ (ds ++ rest))) : (skipSign c).At (ds ++ rest) := by
  have hplus := h.peekD_beq (y := '+') (by decide) (by decide)
  have hminus := h.peekD_beq (y := '-') (by decide) (by decide)
  rcases hsign with rfl | rfl | rfl
  · rw [List.nil_append, any_head?_of_digit hds fun _ => ne_of_isDigit (by decide)] at hplus hminus
    rw [skipSign, hplus, hminus]
    exact h
  · rw [skipSign, hplus]
    exact h.advance (by decide)
  · rw [skipSign, hplus, hminus]
    exact h.advance (by decide)

/-- The cursor behind an exponent, if there is one. -/
def skipPower (c : Cursor) : Except Error Cursor :=
  if c.peekD == ascii 'e' || c.peekD == ascii 'E' then skipExponent c else .ok c

theorem skipFraction_eq (c : Cursor) : skipFraction c =
    if c.peekD == ascii '.' then
      if (passDigits c.advance).1 = 0 then (passDigits c.advance).2.failNext .invalidNumber
      else skipPower (passDigits c.advance).2
    else skipPower c := rfl

section Parts

variable {sign whole fraction exponent : List Char}

theorem skipPower_of_parts (hp : NumberParts sign whole fraction exponent)
    (hrest : EndsNumber rest) (h : c.At (exponent ++ rest)) :
    ∃ c', skipPower c = .ok c' ∧ c'.At rest := by
  have hsmall := h.peekD_beq (y := 'e') (by decide) (by decide)
  have hlarge := h.peekD_beq (y := 'E') (by decide) (by decide)
  rcases hp.power with rfl | ⟨e, s, ds, he, hs, hds, rfl⟩
  · rw [List.nil_append, hrest.any_head? (by simp [isNumeric])] at hsmall hlarge
    exact ⟨c, by rw [skipPower, hsmall, hlarge]; rfl, h⟩
  · have hlt : e.toNat < 0x80 := by rcases he with rfl | rfl <;> decide
    have hletter : (c.peekD == ascii 'e' || c.peekD == ascii 'E') = true := by
      rw [hsmall, hlarge]
      rcases he with rfl | rfl <;> rfl
    have hbehind : c.advance.At (s ++ (ds ++ rest)) := by
      rw [← List.append_assoc]
      exact h.advance hlt
    have hat := skipSign_of_sign hs hds hbehind
    have hdigit : isDigit (skipSign c.advance).peekD = true := by
      rw [hat.test_peekD agree_digit (by decide)]
      obtain ⟨x, ds, rfl⟩ := List.exists_cons_of_ne_nil hds.1
      exact hds.2 x List.mem_cons_self
    obtain ⟨c', hpass, hc'⟩ :=
      passDigits_append hds.2 (hrest.any_head? fun _ => isNumeric_of_isDigit) hat
    exact ⟨c', by rw [skipPower, if_pos hletter, skipExponent, if_pos hdigit, hpass], hc'⟩

theorem noDigit_exponent (hp : NumberParts sign whole fraction exponent)
    (hrest : EndsNumber rest) : NoDigit (exponent ++ rest) := by
  rcases hp.power with rfl | ⟨e, s, ds, he, hs, hds, rfl⟩
  · exact hrest.any_head? fun _ => isNumeric_of_isDigit
  · rcases he with rfl | rfl <;> rfl

theorem skipFraction_of_parts (hp : NumberParts sign whole fraction exponent)
    (hrest : EndsNumber rest) (h : c.At (fraction ++ (exponent ++ rest))) :
    ∃ c', skipFraction c = .ok c' ∧ c'.At rest := by
  have hpoint := h.peekD_beq (y := '.') (by decide) (by decide)
  rw [skipFraction_eq]
  rcases hp.decimals with rfl | ⟨ds, hds, rfl⟩
  · have hno : (exponent ++ rest).head?.any (· == '.') = false := by
      rcases hp.power with rfl | ⟨e, s, ds, he, hs, hds, rfl⟩
      · exact hrest.any_head? (by simp [isNumeric])
      · rcases he with rfl | rfl <;> rfl
    rw [hpoint, List.nil_append, hno]
    exact skipPower_of_parts hp hrest h
  · obtain ⟨c', hpass, hc'⟩ :=
      passDigits_append hds.2 (noDigit_exponent hp hrest) (h.advance (by decide))
    rw [hpoint, List.cons_append, List.head?_cons, Option.any_some, beq_self_eq_true, if_pos rfl,
      hpass, if_neg (mt List.length_eq_zero_iff.1 hds.1)]
    exact skipPower_of_parts hp hrest hc'

theorem noDigit_fraction (hp : NumberParts sign whole fraction exponent)
    (hrest : EndsNumber rest) : NoDigit (fraction ++ (exponent ++ rest)) := by
  rcases hp.decimals with rfl | ⟨ds, hds, rfl⟩
  · rw [List.nil_append]
    exact noDigit_exponent hp hrest
  · rfl

theorem skipUnsigned_of_parts (hp : NumberParts sign whole fraction exponent)
    (hrest : EndsNumber rest) (h : c.At (whole ++ (fraction ++ (exponent ++ rest)))) :
    ∃ c', skipUnsigned c = .ok c' ∧ c'.At rest := by
  have hzero := h.peekD_beq (y := '0') (by decide) (by decide)
  rw [skipUnsigned, hzero]
  by_cases hlead : whole.head? = some '0'
  · have hwhole := hp.lead hlead
    subst hwhole
    have hbehind : c.advance.At (fraction ++ (exponent ++ rest)) := h.advance (by decide)
    have hno : isDigit c.advance.peekD = false := by
      rw [hbehind.test_peekD agree_digit (by decide)]
      exact noDigit_fraction hp hrest
    rw [List.cons_append, List.head?_cons, Option.any_some, beq_self_eq_true, if_pos rfl, hno]
    exact skipFraction_of_parts hp hrest hbehind
  · obtain ⟨x, ds, hwhole⟩ := List.exists_cons_of_ne_nil hp.digits.1
    have hx : x.isDigit = true := hp.digits.2 x (hwhole ▸ List.mem_cons_self)
    have hne : (x == '0') = false := by
      rw [beq_eq_false_iff_ne]
      rintro rfl
      exact hlead (by rw [hwhole]; rfl)
    have hdigit : isDigit c.peekD = true := by
      rw [h.test_peekD agree_digit (by decide), hwhole]
      exact hx
    obtain ⟨c', hpass, hc'⟩ := passDigits_append hp.digits.2 (noDigit_fraction hp hrest) h
    rw [hwhole, List.cons_append, List.head?_cons, Option.any_some, hne, if_neg Bool.false_ne_true,
      if_pos hdigit, hpass]
    exact skipFraction_of_parts hp hrest hc'

end Parts

/-! ## Values without brackets -/

theorem word_of_ascii (xs : List Char) (hxs : ∀ x ∈ xs, x.toNat < 0x80)
    (h : c.At (xs ++ rest)) : ∃ c', word (xs.map ascii) c = .ok c' ∧ c'.At rest := by
  induction xs generalizing c with
  | nil => exact ⟨c, rfl, h⟩
  | cons x xs ih =>
    rw [List.forall_mem_cons] at hxs
    obtain ⟨c', hword, hc'⟩ := ih hxs.2 (h.advance hxs.1)
    exact ⟨c', by simpa [word, h.peek? hxs.1] using hword, hc'⟩

theorem ascii_ne_of_isDigit (hx : x.isDigit = true) (hy : y.toNat < 0x80)
    (hdigit : y.isDigit = false) : ascii x ≠ ascii y := by
  rw [Ne, ascii_inj (lt_of_isDigit hx) hy]
  rintro rfl
  rw [hx] at hdigit
  cases hdigit

/-- A value without brackets is passed over. -/
def PassesScalar (c : Cursor) (rest : List Char) : Prop :=
  ∃ b c', c.peek? = some b ∧ Frame.ofByte? b = none ∧ skipScalar b c = .ok c' ∧ c'.At rest

theorem passesScalar_number {literal : List Char} (h : IsNumber literal) (hrest : EndsNumber rest)
    (hc : c.At (literal ++ rest)) : PassesScalar c rest := by
  obtain ⟨sign, whole, fraction, exponent, hp, rfl⟩ := h
  rcases hp.signs with rfl | rfl
  · have hat : c.At (whole ++ (fraction ++ (exponent ++ rest))) := by simpa using hc
    obtain ⟨x, ds, hwhole⟩ := List.exists_cons_of_ne_nil hp.digits.1
    have hx : x.isDigit = true := hp.digits.2 x (hwhole ▸ List.mem_cons_self)
    have hlt : x.toNat < 0x80 := lt_of_isDigit hx
    have hne {y : Char} (hy : y.toNat < 0x80) (hdigit : y.isDigit = false) :
        ascii x ≠ ascii y := ascii_ne_of_isDigit hx hy hdigit
    obtain ⟨c', hskip, hc'⟩ := skipUnsigned_of_parts hp hrest hat
    have hpeek : c.peek? = some (ascii x) := by
      rw [hwhole] at hat
      exact hat.peek? hlt
    refine ⟨ascii x, c', hpeek, ?_, ?_, hc'⟩
    · rw [Frame.ofByte?, if_neg (hne (by decide) (by decide)), if_neg (hne (by decide) (by decide))]
    · rw [skipScalar, if_neg (hne (by decide) (by decide)), if_neg (hne (by decide) (by decide)),
        if_neg (hne (by decide) (by decide)), if_neg (hne (by decide) (by decide)),
        if_pos (by rw [agree_digit.ascii x hlt, hx]), hskip]
  · have hat : c.At ('-' :: (whole ++ (fraction ++ (exponent ++ rest)))) := by simpa using hc
    obtain ⟨c', hskip, hc'⟩ := skipUnsigned_of_parts hp hrest (hat.advance (by decide))
    exact ⟨ascii '-', c', hat.peek? (by decide), by decide, hskip, hc'⟩

theorem passesScalar_string (h : Body us cs rest) (hc : c.At ('"' :: cs)) :
    PassesScalar c rest := by
  obtain ⟨c', hskip, hc'⟩ := skipString_of_body h (hc.advance (by decide))
  exact ⟨ascii '"', c', hc.peek? (by decide), by decide, hskip, hc'⟩

/-- `null` behind its first letter. -/
theorem word_null (hc : c.At ('u' :: 'l' :: 'l' :: rest)) :
    ∃ c', word nullTail c = .ok c' ∧ c'.At rest :=
  word_of_ascii ['u', 'l', 'l'] (by simp) hc

/-- `true` behind its first letter. -/
theorem word_true (hc : c.At ('r' :: 'u' :: 'e' :: rest)) :
    ∃ c', word trueTail c = .ok c' ∧ c'.At rest :=
  word_of_ascii ['r', 'u', 'e'] (by simp) hc

/-- `false` behind its first letter. -/
theorem word_false (hc : c.At ('a' :: 'l' :: 's' :: 'e' :: rest)) :
    ∃ c', word falseTail c = .ok c' ∧ c'.At rest :=
  word_of_ascii ['a', 'l', 's', 'e'] (by simp) hc

theorem passesScalar_null (hc : c.At ('n' :: 'u' :: 'l' :: 'l' :: rest)) : PassesScalar c rest := by
  obtain ⟨c', hword, hc'⟩ := word_null (hc.advance (by decide))
  exact ⟨ascii 'n', c', hc.peek? (by decide), by decide, hword, hc'⟩

theorem passesScalar_true (hc : c.At ('t' :: 'r' :: 'u' :: 'e' :: rest)) : PassesScalar c rest := by
  obtain ⟨c', hword, hc'⟩ := word_true (hc.advance (by decide))
  exact ⟨ascii 't', c', hc.peek? (by decide), by decide, hword, hc'⟩

theorem passesScalar_false (hc : c.At ('f' :: 'a' :: 'l' :: 's' :: 'e' :: rest)) :
    PassesScalar c rest := by
  obtain ⟨c', hword, hc'⟩ := word_false (hc.advance (by decide))
  exact ⟨ascii 'f', c', hc.peek? (by decide), by decide, hword, hc'⟩

end BulkSuppress.Json
