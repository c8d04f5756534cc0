import BulkSuppress.Json.Document

/-
  The grammar of JSON, as a relation between values and texts. It is told by what is left: a text
  begins with a part that spells something, and goes on with a rest. `Spells` has one case for each
  form that a value, an element or a member may take, with blanks wherever they may be; `IsText`
  says that a whole text spells a value.

  A string is what its characters and escapes come to in UTF-16, so that every string of the grammar
  is one, also where it escapes half of a surrogate pair. A number is what is written.

  `isText_toText` says that the text of a document spells it.
-/

namespace BulkSuppress.Json

/-- A JSON value. -/
inductive Value where
  | null
  | boolean (b : Bool)
  | number (literal : List Char)
  | string (units : List Nat)
  | list (items : List Value)
  | object (members : List (List Nat × Value))

/-! ## Blanks -/

/-- The character may stand between the parts of a text. -/
def isSpace (c : Char) : Bool := c == ' ' || c == '\t' || c == '\n' || c == '\r'

/-- The text begins with any number of blanks, and goes on with the rest. -/
inductive Space : List Char → List Char → Prop
  | none (cs : List Char) : Space cs cs
  | more {c : Char} {cs rest : List Char} (hc : isSpace c = true) (h : Space cs rest) :
    Space (c :: cs) rest

/-! ## Strings -/

/-- The UTF-16 code units of a character. -/
def unitsOf (c : Char) : List Nat :=
  if c.toNat < 0x10000 then [c.toNat]
  else [0xD800 + (c.toNat - 0x10000) / 0x400, 0xDC00 + (c.toNat - 0x10000) % 0x400]

/-- The UTF-16 code units of a text. -/
def units (s : String) : List Nat := s.toList.flatMap unitsOf

/-- The value of the first member that has the key. -/
def Value.member? (key : String) : Value → Option Value
  | .object ms => ms.lookup (units key)
  | _ => none

/-- The letters of the short escapes, with the code units that they stand for. -/
def shortEscapes : List (Char × Nat) :=
  [('"', 0x22), ('\\', 0x5C), ('/', 0x2F), ('b', 0x08), ('f', 0x0C), ('n', 0x0A), ('r', 0x0D),
    ('t', 0x09)]

/-- The value of a hexadecimal digit in either case. -/
def hexDigit? (c : Char) : Option Nat :=
  if '0' ≤ c ∧ c ≤ '9' then some (c.toNat - '0'.toNat)
  else if 'a' ≤ c ∧ c ≤ 'f' then some (c.toNat - 'a'.toNat + 10)
  else if 'A' ≤ c ∧ c ≤ 'F' then some (c.toNat - 'A'.toNat + 10)
  else none

/-- The value of four hexadecimal digits. -/
def hexDigits? (a b c d : Char) : Option Nat := do
  return (((← hexDigit? a) * 16 + (← hexDigit? b)) * 16 + (← hexDigit? c)) * 16 + (← hexDigit? d)

/-- The text begins with the characters of a string and the quote that ends it. -/
inductive Body : List Nat → List Char → List Char → Prop
  | close {rest : List Char} : Body [] ('"' :: rest) rest
  | plain {c : Char} {us : List Nat} {cs rest : List Char} (hc : 0x20 ≤ c.toNat) (hq : c ≠ '"')
      (hb : c ≠ '\\') (h : Body us cs rest) : Body (unitsOf c ++ us) (c :: cs) rest
  | short {e : Char} {u : Nat} {us : List Nat} {cs rest : List Char} (he : (e, u) ∈ shortEscapes)
      (h : Body us cs rest) : Body (u :: us) ('\\' :: e :: cs) rest
  | code {a b c d : Char} {u : Nat} {us : List Nat} {cs rest : List Char}
      (hu : hexDigits? a b c d = some u) (h : Body us cs rest) :
    Body (u :: us) ('\\' :: 'u' :: a :: b :: c :: d :: cs) rest

/-! ## Numbers -/

/-- One digit or more. -/
def IsDigits (ds : List Char) : Prop := ds ≠ [] ∧ ∀ c ∈ ds, c.isDigit = true

/-- What a number is written in: perhaps a sign, a fraction and an exponent. -/
structure NumberParts (sign whole fraction exponent : List Char) : Prop where
  signs : sign = [] ∨ sign = ['-']
  digits : IsDigits whole
  /-- There are no zeros in front. -/
  lead : whole.head? = some '0' → whole = ['0']
  decimals : fraction = [] ∨ ∃ ds, IsDigits ds ∧ fraction = '.' :: ds
  power : exponent = [] ∨ ∃ e s ds, (e = 'e' ∨ e = 'E') ∧ (s = [] ∨ s = ['+'] ∨ s = ['-']) ∧
    IsDigits ds ∧ exponent = e :: (s ++ ds)

/-- The text is a number. -/
def IsNumber (text : List Char) : Prop :=
  ∃ sign whole fraction exponent, NumberParts sign whole fraction exponent ∧
    text = sign ++ whole ++ fraction ++ exponent

/-! ## Values -/

/-- What a part of a text spells. -/
inductive Part where
  | value (v : Value)
  /-- A value with blanks around it. -/
  | item (v : Value)
  /-- The elements of a list. -/
  | items (vs : List Value)
  /-- A key and its value with blanks around them. -/
  | member (m : List Nat × Value)
  /-- The members of an object. -/
  | members (ms : List (List Nat × Value))

/-- The text begins with something that spells the part, and goes on with the rest. -/
inductive Spells : Part → List Char → List Char → Prop
  | null {rest : List Char} : Spells (.value .null) ('n' :: 'u' :: 'l' :: 'l' :: rest) rest
  | yes {rest : List Char} :
    Spells (.value (.boolean true)) ('t' :: 'r' :: 'u' :: 'e' :: rest) rest
  | no {rest : List Char} :
    Spells (.value (.boolean false)) ('f' :: 'a' :: 'l' :: 's' :: 'e' :: rest) rest
  | number {literal cs rest : List Char} (h : IsNumber literal) (htext : cs = literal ++ rest) :
    Spells (.value (.number literal)) cs rest
  | string {us : List Nat} {cs rest : List Char} (h : Body us cs rest) :
    Spells (.value (.string us)) ('"' :: cs) rest
  | list {vs : List Value} {cs rest : List Char} (h : Spells (.items vs) cs (']' :: rest)) :
    Spells (.value (.list vs)) ('[' :: cs) rest
  | object {ms : List (List Nat × Value)} {cs rest : List Char}
      (h : Spells (.members ms) cs ('\x7d' :: rest)) :
    Spells (.value (.object ms)) ('\x7b' :: cs) rest
  | item {v : Value} {cs cs₁ cs₂ rest : List Char} (hfront : Space cs cs₁)
      (h : Spells (.value v) cs₁ cs₂) (hback : Space cs₂ rest) : Spells (.item v) cs rest
  | noItems {cs rest : List Char} (h : Space cs rest) : Spells (.items []) cs rest
  | lastItem {v : Value} {cs rest : List Char} (h : Spells (.item v) cs rest) :
    Spells (.items [v]) cs rest
  | moreItems {v w : Value} {vs : List Value} {cs cs₁ rest : List Char}
      (h : Spells (.item v) cs (',' :: cs₁)) (hs : Spells (.items (w :: vs)) cs₁ rest) :
    Spells (.items (v :: w :: vs)) cs rest
  | member {k : List Nat} {v : Value} {cs cs₁ cs₂ cs₃ rest : List Char}
      (hfront : Space cs ('"' :: cs₁)) (hkey : Body k cs₁ cs₂) (hcolon : Space cs₂ (':' :: cs₃))
      (h : Spells (.item v) cs₃ rest) : Spells (.member (k, v)) cs rest
  | noMembers {cs rest : List Char} (h : Space cs rest) : Spells (.members []) cs rest
  | lastMember {m : List Nat × Value} {cs rest : List Char} (h : Spells (.member m) cs rest) :
    Spells (.members [m]) cs rest
  | moreMembers {m n : List Nat × Value} {ms : List (List Nat × Value)} {cs cs₁ rest : List Char}
      (h : Spells (.member m) cs (',' :: cs₁)) (hs : Spells (.members (n :: ms)) cs₁ rest) :
    Spells (.members (m :: n :: ms)) cs rest

/-- The whole text is one that spells the value. -/
def IsText (v : Value) (cs : List Char) : Prop := Spells (.item v) cs []

/-! ## The text of a document -/

namespace Document

mutual

/-- The value that a document is. -/
def value : Document → Value
  | .boolean b => .boolean b
  | .number n => .number (Nat.toDigits 10 n)
  | .string s => .string (units s)
  | .list xs => .list (values xs)
  | .object ms => .object (entries ms)

/-- The values that documents are. -/
def values : List Document → List Value
  | [] => []
  | x :: xs => x.value :: values xs

/-- The members with the values that their documents are. -/
def entries : List (String × Document) → List (List Nat × Value)
  | [] => []
  | (k, x) :: ms => (units k, x.value) :: entries ms

end

variable {level : Nat} {back rest : List Char}

/-! ### Leaves -/

theorem space_replicate (n : Nat) (rest : List Char) : Space (List.replicate n ' ' ++ rest) rest := by
  induction n with
  | zero => exact .none rest
  | succ n ih => exact .more rfl ih

theorem space_lineStart (level : Nat) (rest : List Char) : Space (lineStart level ++ rest) rest :=
  .more rfl (space_replicate _ rest)

/-- A control character is written with two digits behind two zeros. -/
theorem hexDigits?_hex4 : ∀ n < 0x20,
    hex4 n = ['0', '0', Nat.digitChar (n / 0x10), Nat.digitChar (n % 0x10)] ∧
      hexDigits? '0' '0' (Nat.digitChar (n / 0x10)) (Nat.digitChar (n % 0x10)) = some n := by
  decide

theorem body_short {e : Char} {u : Nat} {us : List Nat} {cs : List Char} {c : Char}
    (he : (e, u) ∈ shortEscapes) (hu : unitsOf c = [u]) (h : Body us cs rest) :
    Body (unitsOf c ++ us) (['\\', e] ++ cs) rest := by
  rw [hu]
  exact .short he h

/-- A character is spelled by what is written for it. -/
theorem body_escapeChar {us : List Nat} {cs : List Char} (c : Char) (h : Body us cs rest) :
    Body (unitsOf c ++ us) (escapeChar c ++ cs) rest := by
  unfold escapeChar
  split
  · subst c; exact body_short (u := 0x22) (by decide) (by decide) h
  split
  · subst c; exact body_short (u := 0x5C) (by decide) (by decide) h
  split
  · subst c; exact body_short (u := 0x08) (by decide) (by decide) h
  split
  · subst c; exact body_short (u := 0x0C) (by decide) (by decide) h
  split
  · subst c; exact body_short (u := 0x0A) (by decide) (by decide) h
  split
  · subst c; exact body_short (u := 0x0D) (by decide) (by decide) h
  split
  · subst c; exact body_short (u := 0x09) (by decide) (by decide) h
  split
  · rename_i hcontrol
    obtain ⟨hhex, hvalue⟩ := hexDigits?_hex4 c.toNat hcontrol
    have hu : unitsOf c = [c.toNat] := if_pos (by omega)
    rw [hhex, hu]
    exact .code hvalue h
  · exact .plain (by omega) ‹_› ‹_› h

theorem body_stringText (s : String) (rest : List Char) :
    Body (units s) (s.toList.flatMap escapeChar ++ '"' :: rest) rest := by
  rw [units]
  induction s.toList with
  | nil => exact .close
  | cons c cs ih =>
    rw [List.flatMap_cons, List.flatMap_cons, List.append_assoc]
    exact body_escapeChar c ih

theorem head?_toDigits {n : Nat} (hn : n ≠ 0) : (Nat.toDigits 10 n).head? ≠ some '0' := by
  induction n using Nat.strongRecOn with
  | ind n ih =>
    rw [Nat.toDigits_eq_if (by decide)]
    split
    · rename_i hlt
      have hdigit : ∀ m < 10, m ≠ 0 → [Nat.digitChar m].head? ≠ some '0' := by decide
      exact hdigit n hlt hn
    · have htop := ih (n / 10) (by omega) (by omega)
      cases hds : Nat.toDigits 10 (n / 10) with
      | nil => exact absurd hds Nat.toDigits_ne_nil
      | cons c cs => simpa [hds] using htop

theorem isNumber_toDigits (n : Nat) : IsNumber (Nat.toDigits 10 n) := by
  refine ⟨[], Nat.toDigits 10 n, [], [], ⟨.inl rfl, ⟨Nat.toDigits_ne_nil, fun c hc => ?_⟩,
    fun hzero => ?_, .inl rfl, .inl rfl⟩, by simp⟩
  · exact Nat.isDigit_of_mem_toDigits (by decide) (by decide) hc
  · rcases Nat.eq_zero_or_pos n with rfl | hn
    · decide
    · exact absurd hzero (head?_toDigits (Nat.ne_of_gt hn))

/-! ### Lists and objects -/

/-- The text of the document spells it, on a level. -/
def IsSpelled (level : Nat) (d : Document) : Prop :=
  ∀ rest, Spells (.value d.value) (d.text level ++ rest) rest

theorem spells_itemsText (hback : Space back rest) {x : Document} {xs : List Document}
    (h : ∀ y ∈ x :: xs, y.IsSpelled level) : Spells (.items (values (x :: xs)))
      (lineStart level ++ (x.text level ++ (itemsText level xs ++ back))) rest := by
  rw [List.forall_mem_cons] at h
  induction xs generalizing x with
  | nil => exact .lastItem (.item (space_lineStart level _) (h.1 _) hback)
  | cons y ys ih =>
    have hrest := ih (List.forall_mem_cons.1 h.2)
    rw [itemsText]
    simp only [List.cons_append, List.append_assoc]
    exact .moreItems (.item (space_lineStart level _) (h.1 _) (.none _)) hrest

theorem spells_memberText (hback : Space back rest) (k : String) {x : Document}
    (h : x.IsSpelled level) : Spells (.member (units k, x.value))
      (lineStart level ++ (stringText k ++ (':' :: ' ' :: (x.text level ++ back)))) rest := by
  have hbody := body_stringText k (':' :: ' ' :: (x.text level ++ back))
  rw [stringText]
  simp only [List.cons_append, List.append_assoc, List.nil_append]
  exact .member (space_lineStart level _) hbody (.none _) (.item (.more rfl (.none _)) (h _) hback)

theorem spells_membersText (hback : Space back rest) {k : String} {x : Document}
    {ms : List (String × Document)} (h : ∀ m ∈ (k, x) :: ms, m.2.IsSpelled level) :
    Spells (.members (entries ((k, x) :: ms)))
      (lineStart level ++ (stringText k ++ (':' :: ' ' :: (x.text level ++
        (membersText level ms ++ back))))) rest := by
  rw [List.forall_mem_cons] at h
  induction ms generalizing k x with
  | nil => exact .lastMember (spells_memberText hback k h.1)
  | cons m ms ih =>
    obtain ⟨k', y⟩ := m
    have hrest := ih (List.forall_mem_cons.1 h.2)
    rw [membersText]
    simp only [List.cons_append, List.append_assoc, List.nil_append]
    exact .moreMembers (spells_memberText (.none _) k h.1) hrest

mutual

theorem isSpelled : ∀ (d : Document) (level : Nat), d.IsSpelled level
  | .boolean true, _, _ => .yes
  | .boolean false, _, _ => .no
  | .number n, _, _ => .number (isNumber_toDigits n) rfl
  | .string s, _, rest => by
    rw [value, text, stringText]
    simp only [List.cons_append, List.append_assoc, List.nil_append]
    exact .string (body_stringText s rest)
  | .list [], _, _ => .list (.noItems (.none _))
  | .list (x :: xs), level, rest => by
    have h := spells_itemsText (space_lineStart level (']' :: rest)) (List.forall_mem_cons.2
      ⟨isSpelled x (level + 1), forall_isSpelled xs (level + 1)⟩)
    rw [value, text]
    simp only [List.cons_append, List.append_assoc, List.nil_append]
    exact .list h
  | .object [], _, _ => .object (.noMembers (.none _))
  | .object ((k, x) :: ms), level, rest => by
    have h := spells_membersText (k := k) (space_lineStart level ('\x7d' :: rest))
      (List.forall_mem_cons.2 ⟨isSpelled x (level + 1), forall_isSpelled_members ms (level + 1)⟩)
    rw [value, text]
    simp only [List.cons_append, List.append_assoc, List.nil_append]
    exact .object h

theorem forall_isSpelled : ∀ (xs : List Document) (level : Nat), ∀ x ∈ xs, x.IsSpelled level
  | [], _ => List.forall_mem_nil _
  | x :: xs, level => List.forall_mem_cons.2 ⟨isSpelled x level, forall_isSpelled xs level⟩

theorem forall_isSpelled_members : ∀ (ms : List (String × Document)) (level : Nat),
    ∀ m ∈ ms, m.2.IsSpelled level
  | [], _ => List.forall_mem_nil _
  | (_, x) :: ms, level =>
    List.forall_mem_cons.2 ⟨isSpelled x level, forall_isSpelled_members ms level⟩

end

/-- The text of a document spells it. -/
theorem isText_toText (d : Document) : IsText d.value d.toText.toList := by
  have h := isSpelled d 0 []
  rw [List.append_nil] at h
  rw [IsText, toText, String.toList_ofList]
  exact .item (.none _) h (.none _)

end Document
end BulkSuppress.Json
