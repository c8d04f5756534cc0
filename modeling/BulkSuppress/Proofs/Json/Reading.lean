import Mathlib.Data.List.Forall2
import BulkSuppress.Proofs.Json.Scanning

/-
  What the grammar spells is read. A value that nobody looks at is skipped, however deep it is
  (`skipValue_of_spells`): the induction is on how a part is spelled, and carries that skipping from
  the part on comes to skipping from its end on, whatever brackets are open. A value of a known type
  is understood if it is read wherever it is spelled (`Understands`); so is a list if its elements
  are (`understands_listValue`), and an object fills a record if its members do (`Fills`,
  `members_of_spells`).

  Where a value ends is told by what comes behind it: blanks, and then the end of the item.
-/

namespace BulkSuppress.Json

variable {c c₁ c₂ : Cursor} {cs rest : List Char} {b : UInt8} {v : Value} {frame : Frame}
variable {outer : List Frame}

theorem map_map {α β γ : Type} (x : Except Error α) (f : α → β) (g : β → γ) :
    (x.map f).map g = x.map (g ∘ f) := by
  cases x <;> rfl

/-! ## Skipping -/

/-- The cursor behind a value and the brackets that are open. -/
def passFrom (outer : List Frame) (c : Cursor) : Except Error Cursor :=
  (skipFrom outer c).map (·.1)

/-- The cursor behind the brackets that are open after a value. -/
def passAfter (outer : List Frame) (c : Cursor) : Except Error Cursor :=
  (skipAfter outer c).map (·.1)

/-- The cursor behind an entry of a bracket, and behind that and all that are open. -/
def passEntry (frame : Frame) (outer : List Frame) (c : Cursor) : Except Error Cursor :=
  (skipEntry frame outer c).map (·.1)

theorem passFrom_eq (outer : List Frame) (c : Cursor) : passFrom outer c =
    match c.skipBlanks.peek? with
    | none => c.skipBlanks.failNext .endInValue
    | some b =>
      match Frame.ofByte? b with
      | none => skipScalar b c.skipBlanks >>= passAfter outer
      | some frame =>
        match c.skipBlanks.advance.skipBlanks.peek? with
        | none => c.skipBlanks.advance.skipBlanks.failNext frame.endProblem
        | some b =>
          if b = frame.close then passAfter outer c.skipBlanks.advance.skipBlanks.advance
          else passEntry frame outer c.skipBlanks.advance.skipBlanks := by
  rw [passFrom, skipFrom]
  simp only
  split <;> rename_i hp <;> simp only [hp]
  · rfl
  rename_i b
  cases Frame.ofByte? b with
  | none =>
    simp only
    split <;> rename_i hskip <;> simp only [hskip]
    · rfl
    · exact map_map _ _ _
  | some frame =>
    cases c.skipBlanks.advance.skipBlanks.peek? with
    | none => rfl
    | some b =>
      simp only
      split
      · exact map_map _ _ _
      · exact map_map _ _ _

theorem passAfter_nil (c : Cursor) : passAfter [] c = .ok c := by
  rw [passAfter, skipAfter]
  rfl

theorem passAfter_cons (frame : Frame) (outer : List Frame) (c : Cursor) :
    passAfter (frame :: outer) c =
      match c.skipBlanks.peek? with
      | none => c.skipBlanks.failNext frame.endProblem
      | some b =>
        if b = ascii ',' then passEntry frame outer c.skipBlanks.advance
        else if b = frame.close then passAfter outer c.skipBlanks.advance
        else c.skipBlanks.failNext frame.separatorProblem := by
  rw [passAfter, skipAfter]
  simp only
  split <;> rename_i hp <;> simp only [hp]
  · rfl
  split
  · exact map_map _ _ _
  split
  · exact map_map _ _ _
  · rfl

theorem passEntry_list (outer : List Frame) (c : Cursor) :
    passEntry .list outer c = passFrom (.list :: outer) c := by
  rw [passEntry, skipEntry]
  rfl

theorem passEntry_object (outer : List Frame) (c : Cursor) :
    passEntry .object outer c = skipKey c >>= passFrom (.object :: outer) := by
  rw [passEntry, skipEntry]
  split <;> rename_i hkey <;> simp only [hkey]
  · rfl
  · exact map_map _ _ _

/-! ### Entries and brackets -/

namespace Frame

/-- The character that opens the bracket. -/
def opening : Frame → Char
  | .list => '['
  | .object => '\x7b'

/-- The character that closes the bracket. -/
def closing : Frame → Char
  | .list => ']'
  | .object => '\x7d'

theorem ofByte?_opening (frame : Frame) : ofByte? (ascii frame.opening) = some frame := by
  cases frame <;> rfl

theorem close_eq (frame : Frame) : frame.close = ascii frame.closing := by
  cases frame <;> rfl

theorem lt_opening (frame : Frame) : frame.opening.toNat < 0x80 := by
  cases frame <;> decide

theorem lt_closing (frame : Frame) : frame.closing.toNat < 0x80 := by
  cases frame <;> decide

theorem startsPlain_opening (frame : Frame) : StartsPlain (frame.opening :: cs) := by
  rintro _ ⟨⟩
  cases frame <;> rfl

theorem startsPlain_closing (frame : Frame) : StartsPlain (frame.closing :: cs) := by
  rintro _ ⟨⟩
  cases frame <;> rfl

theorem closing_ne_comma (frame : Frame) : ascii frame.closing ≠ ascii ',' := by
  cases frame <;> decide

end Frame

theorem passFrom_skipBlanks (outer : List Frame) (c : Cursor) :
    passFrom outer c.skipBlanks = passFrom outer c := by
  rw [passFrom_eq, passFrom_eq, c.skipBlanks_skipBlanks]

/-- Entries begin with blanks if there are any. -/
theorem passEntry_skipBlanks (frame : Frame) (outer : List Frame) (c : Cursor) :
    passEntry frame outer c.skipBlanks = passEntry frame outer c := by
  cases frame with
  | list => rw [passEntry_list, passEntry_list, passFrom_skipBlanks]
  | object =>
    rw [passEntry_object, passEntry_object, skipKey, skipKey, c.skipBlanks_skipBlanks]

/-- The text has an entry of a bracket in front of the rest, and it is passed over. -/
def PassesEntry (frame : Frame) (cs rest : List Char) : Prop :=
  ∀ outer c, c.Near cs →
    ∃ c', c'.Near rest ∧ passEntry frame outer c = passAfter (frame :: outer) c'

theorem PassesEntry.more {cs₁ : List Char} (h : PassesEntry frame cs (',' :: cs₁))
    (hs : PassesEntry frame cs₁ rest) : PassesEntry frame cs rest := by
  intro outer c hc
  obtain ⟨c₁, hc₁, hpass⟩ := h outer c hc
  have hcomma := hc₁.at_skipBlanks (by rintro _ ⟨⟩; rfl)
  obtain ⟨c₂, hc₂, hpass'⟩ := hs outer _ (hcomma.advance (by decide)).near
  refine ⟨c₂, hc₂, ?_⟩
  rw [hpass, passAfter_cons, hcomma.peek? (by decide), ← hpass']
  simp

/-- The text begins with blanks and a character that no bracket is closed with. -/
def StartsEntry (cs : List Char) : Prop :=
  ∃ x t, Space cs (x :: t) ∧ isSpace x = false ∧ ¬ (x = ',' ∨ x = ']' ∨ x = '\x7d')

/-- An empty bracket is passed over. -/
theorem passFrom_empty (hspace : Space cs (frame.closing :: rest))
    (hc : c.Near (frame.opening :: cs)) (outer : List Frame) :
    ∃ c', c'.At rest ∧ passFrom outer c = passAfter outer c' := by
  have hopen := hc.at_skipBlanks frame.startsPlain_opening
  have hclose := Cursor.Near.at_skipBlanks ⟨cs, hopen.advance frame.lt_opening, hspace⟩
    frame.startsPlain_closing
  refine ⟨_, hclose.advance frame.lt_closing, ?_⟩
  rw [passFrom_eq, hopen.peek? frame.lt_opening]
  simp only [frame.ofByte?_opening, hclose.peek? frame.lt_closing, frame.close_eq, if_true]

/-- A bracket is passed over if its entries are. -/
theorem passFrom_full (hstart : StartsEntry cs)
    (hentry : PassesEntry frame cs (frame.closing :: rest)) (hc : c.Near (frame.opening :: cs))
    (outer : List Frame) :
    ∃ c', c'.At rest ∧ passFrom outer c = passAfter outer c' := by
  obtain ⟨x, t, hspace, hx, hends⟩ := hstart
  have hopen := hc.at_skipBlanks frame.startsPlain_opening
  have hinside := hopen.advance frame.lt_opening
  have hfirst := Cursor.Near.at_skipBlanks ⟨cs, hinside, hspace⟩ (by rintro _ ⟨⟩; exact hx)
  obtain ⟨b, hb, hiff⟩ := hfirst.exists_peek?
  have hne : b ≠ frame.close := by
    rw [frame.close_eq, Ne, hiff frame.lt_closing]
    rintro rfl
    cases frame with
    | list => exact hends (.inr (.inl rfl))
    | object => exact hends (.inr (.inr rfl))
  obtain ⟨c', hc', hpass⟩ := hentry outer _ hinside.near
  have hclose := hc'.at_skipBlanks frame.startsPlain_closing
  refine ⟨_, hclose.advance frame.lt_closing, ?_⟩
  rw [passFrom_eq, hopen.peek? frame.lt_opening]
  simp only [frame.ofByte?_opening, hb, if_neg hne]
  rw [passEntry_skipBlanks, hpass, passAfter_cons, hclose.peek? frame.lt_closing]
  simp only [frame.close_eq, if_neg frame.closing_ne_comma, if_true]

/-- The key of a member is passed over, and the colon behind it. -/
theorem skipKey_of_body {k : List Nat} {cs₁ cs₂ cs₃ : List Char} (hfront : Space cs ('"' :: cs₁))
    (hkey : Body k cs₁ cs₂) (hcolon : Space cs₂ (':' :: cs₃)) (hc : c.Near cs) :
    ∃ c', skipKey c = .ok c' ∧ c'.At cs₃ := by
  have hquote := (hc.trans hfront).at_skipBlanks startsPlain_quote
  obtain ⟨c₁, hskip, hc₁⟩ := skipString_of_body hkey (hquote.advance (by decide))
  have hat := Cursor.Near.at_skipBlanks ⟨cs₂, hc₁, hcolon⟩ startsPlain_colon
  refine ⟨_, ?_, hat.advance (by decide)⟩
  simp [skipKey, hquote.peek? (by decide), hskip, hat.peek? (by decide), bind, Except.bind, pure,
    Except.pure]

/-! ### Whatever is spelled is passed over -/

/-- What it means for a part of a text that it is passed over. -/
def Part.IsPassed : Part → List Char → List Char → Prop
  | .value _, cs, rest => EndsNumber rest → ∀ outer c, c.Near cs →
    ∃ c', c'.At rest ∧ passFrom outer c = passAfter outer c'
  | .item _, cs, rest => EndsItem rest → ∀ outer c, c.Near cs →
    ∃ c', c'.Near rest ∧ passFrom outer c = passAfter outer c'
  | .items vs, cs, rest => EndsItems rest →
    vs = [] ∧ Space cs rest ∨ StartsEntry cs ∧ PassesEntry .list cs rest
  | .member _, cs, rest => EndsItem rest → PassesEntry .object cs rest
  | .members ms, cs, rest => EndsItems rest →
    ms = [] ∧ Space cs rest ∨ StartsEntry cs ∧ PassesEntry .object cs rest

theorem passFrom_of_scalar (h : ∀ c : Cursor, c.At cs → PassesScalar c rest)
    (hcs : StartsPlain cs) (hc : c.Near cs) (outer : List Frame) :
    ∃ c', c'.At rest ∧ passFrom outer c = passAfter outer c' := by
  obtain ⟨b, c', hpeek, hframe, hskip, hc'⟩ := h _ (hc.at_skipBlanks hcs)
  refine ⟨c', hc', ?_⟩
  rw [passFrom_eq, hpeek]
  simp only [hframe, hskip]
  rfl

/-- Brackets are passed over if what is in them is. -/
theorem passFrom_bracket (frame : Frame) (hinside : Space cs (frame.closing :: rest) ∨
      StartsEntry cs ∧ PassesEntry frame cs (frame.closing :: rest))
    (hc : c.Near (frame.opening :: cs)) (outer : List Frame) :
    ∃ c', c'.At rest ∧ passFrom outer c = passAfter outer c' := by
  rcases hinside with hspace | ⟨hstart, hentry⟩
  · exact passFrom_empty hspace hc outer
  · exact passFrom_full hstart hentry hc outer

theorem startsEntry_of_item {v : Value} (h : Spells (.item v) cs rest) : StartsEntry cs := by
  cases h with
  | item hfront hv hback =>
    obtain ⟨x, t, rfl, hx, hends⟩ := hv.head_value
    exact ⟨x, t, hfront, hx, hends⟩

theorem startsEntry_of_member {m : List Nat × Value} (h : Spells (.member m) cs rest) :
    StartsEntry cs := by
  cases h with
  | member hfront => exact ⟨'"', _, hfront, by decide, by decide⟩

theorem passesEntry_of_item (h : ∀ outer c, c.Near cs →
    ∃ c', c'.Near rest ∧ passFrom outer c = passAfter outer c') : PassesEntry .list cs rest :=
  fun outer c hc => by
    obtain ⟨c', hc', hpass⟩ := h (.list :: outer) c hc
    exact ⟨c', hc', (passEntry_list outer c).trans hpass⟩

theorem Spells.isPassed {part : Part} (h : Spells part cs rest) : part.IsPassed cs rest := by
  induction h with
  | null =>
    intro _ outer c hc
    exact passFrom_of_scalar (fun _ => passesScalar_null) Spells.null.startsPlain_value hc outer
  | yes =>
    intro _ outer c hc
    exact passFrom_of_scalar (fun _ => passesScalar_true) Spells.yes.startsPlain_value hc outer
  | no =>
    intro _ outer c hc
    exact passFrom_of_scalar (fun _ => passesScalar_false) Spells.no.startsPlain_value hc outer
  | number hn htext =>
    intro hrest outer c hc
    have hplain := (Spells.number hn htext).startsPlain_value
    subst htext
    exact passFrom_of_scalar (fun _ => passesScalar_number hn hrest) hplain hc outer
  | string hbody =>
    intro _ outer c hc
    exact passFrom_of_scalar (fun _ => passesScalar_string hbody) startsPlain_quote hc outer
  | list _ ih =>
    intro _ outer c hc
    exact passFrom_bracket .list ((ih endsItems_bracket).imp_left (·.2)) hc outer
  | object _ ih =>
    intro _ outer c hc
    exact passFrom_bracket .object ((ih endsItems_brace).imp_left (·.2)) hc outer
  | item hfront hv hback ih =>
    intro hrest outer c hc
    obtain ⟨c', hc', hpass⟩ := ih (hback.endsNumber hrest) outer c (hc.trans hfront)
    exact ⟨c', ⟨_, hc', hback⟩, hpass⟩
  | member hfront hkey hcolon hv ih =>
    intro hrest outer c hc
    obtain ⟨c₁, hskip, hc₁⟩ := skipKey_of_body hfront hkey hcolon hc
    obtain ⟨c', hc', hpass⟩ := ih hrest (.object :: outer) c₁ hc₁.near
    refine ⟨c', hc', ?_⟩
    rw [passEntry_object, hskip, ← hpass]
    rfl
  | noItems hspace => exact fun _ => .inl ⟨rfl, hspace⟩
  | lastItem hv ih =>
    exact fun hrest => .inr ⟨startsEntry_of_item hv, passesEntry_of_item (ih hrest.endsItem)⟩
  | moreItems hv hs ih ihs =>
    intro hrest
    obtain ⟨hnil, -⟩ | ⟨-, hmore⟩ := ihs hrest
    · cases hnil
    · exact .inr ⟨startsEntry_of_item hv, (passesEntry_of_item (ih endsItem_comma)).more hmore⟩
  | noMembers hspace => exact fun _ => .inl ⟨rfl, hspace⟩
  | lastMember hm ih =>
    exact fun hrest => .inr ⟨startsEntry_of_member hm, ih hrest.endsItem⟩
  | moreMembers hm hs ih ihs =>
    intro hrest
    obtain ⟨hnil, -⟩ | ⟨-, hmore⟩ := ihs hrest
    · cases hnil
    · exact .inr ⟨startsEntry_of_member hm, (ih endsItem_comma).more hmore⟩

/-- Any value is skipped, however deep it is. -/
theorem skipValue_of_spells (h : Spells (.item v) cs rest) (hrest : EndsItem rest)
    (hc : c.Near cs) : ∃ c', skipValue c = .ok c' ∧ c'.Near rest := by
  obtain ⟨c', hc', hpass⟩ := h.isPassed hrest [] c hc
  exact ⟨c', hpass.trans (passAfter_nil c'), hc'⟩

/-! ## Values of known types -/

/-- Wherever the value is spelled, it is read as `a`. -/
def Understands {α : Type} (read : Cursor → Except Error (α × Cursor)) (v : Value) (a : α) :
    Prop :=
  ∀ cs back rest, Spells (.value v) cs back → Space back rest → EndsItem rest →
    ∀ c : Cursor, c.Near cs → ∃ c', read c = .ok (a, c') ∧ c'.Near rest

variable {x : Char} {α σ : Type} {a : α} {r : Reader α} {vs : List Value} {as : List α}
variable {first : Bool} {back : List Char}

theorem valueStart_of_near (hx : x.toNat < 0x80) (hcs : StartsPlain (x :: cs))
    (h : c.Near (x :: cs)) : valueStart c = .ok (ascii x, c.skipBlanks) := by
  rw [valueStart, (h.at_skipBlanks hcs).peek? hx]

theorem understands_textValue (s : String) : Understands textValue (.string (units s)) s := by
  intro cs back rest h hback _ c hc
  cases h with
  | string hbody =>
    have hquote := hc.at_skipBlanks startsPlain_quote
    obtain ⟨c', hread, hc'⟩ := string_of_body hbody (hquote.advance (by decide))
    refine ⟨c', ?_, back, hc', hback⟩
    simp [textValue, valueStart_of_near (by decide) startsPlain_quote hc, bind, Except.bind, hread]

theorem understands_booleanValue (b : Bool) : Understands booleanValue (.boolean b) b := by
  intro cs back rest h hback _ c hc
  have hplain := h.startsPlain_value
  cases h with
  | yes =>
    obtain ⟨c', hword, hc'⟩ := word_true ((hc.at_skipBlanks hplain).advance (by decide))
    refine ⟨c', ?_, _, hc', hback⟩
    simp [booleanValue, valueStart_of_near (by decide) hplain hc, bind, Except.bind, hword,
      Except.map]
  | no =>
    obtain ⟨c', hword, hc'⟩ := word_false ((hc.at_skipBlanks hplain).advance (by decide))
    refine ⟨c', ?_, _, hc', hback⟩
    have hne : ascii 'f' ≠ ascii 't' := by decide
    simp [booleanValue, valueStart_of_near (by decide) hplain hc, bind, Except.bind, hword,
      Except.map, hne]

theorem understands_optionalText_null : Understands optionalText .null none := by
  intro cs back rest h hback _ c hc
  have hplain := h.startsPlain_value
  cases h with
  | null =>
    have hat := hc.at_skipBlanks hplain
    obtain ⟨c', hword, hc'⟩ := word_null (hat.advance (by decide))
    refine ⟨c', ?_, _, hc', hback⟩
    simp [optionalText, hat.peekD (by decide), hword, Except.map]

theorem understands_optionalText (s : String) :
    Understands optionalText (.string (units s)) (some s) := by
  intro cs back rest h hback hrest c hc
  have hplain := h.startsPlain_value
  have hat := hc.at_skipBlanks hplain
  obtain ⟨c', hread, hc'⟩ := understands_textValue s cs back rest h hback hrest _ hat.near
  refine ⟨c', ?_, hc'⟩
  cases h with
  | string hbody =>
    have hne : ascii '"' ≠ ascii 'n' := by decide
    simp [optionalText, hat.peekD (by decide), hne, hread, Except.map]

/-! ### Lists -/

/-- The cursor is where the next entry of a bracket is looked for, which begins the text. -/
def Cursor.AtNext (first : Bool) (c : Cursor) (cs : List Char) : Prop :=
  c.Near (if first then cs else ',' :: cs)

theorem Cursor.At.atNext (h : c.At cs) : c.AtNext true cs := h.near

theorem Cursor.Near.atNext (h : c.Near (',' :: cs)) : c.AtNext false cs := h

theorem nextElement_of_close (h : c.Near (']' :: cs)) : nextElement first c = .ok none := by
  have hat := h.at_skipBlanks endsItems_bracket.endsItem.startsPlain
  simp [nextElement, hat.peek? (by decide)]

theorem nextElement_of_atNext {cs₁ : List Char} (h : c.AtNext first cs)
    (hspace : Space cs (x :: cs₁)) (hx : isSpace x = false)
    (hends : ¬ (x = ',' ∨ x = ']' ∨ x = '\x7d')) :
    ∃ c', nextElement first c = .ok (some c') ∧ c'.At (x :: cs₁) := by
  have hplain : StartsPlain (x :: cs₁) := by
    rintro _ ⟨⟩
    exact hx
  have hne {c : Cursor} (hc : c.At (x :: cs₁)) : ∃ b, c.peek? = some b ∧ b ≠ ascii ']' := by
    obtain ⟨b, hb, hiff⟩ := hc.exists_peek?
    exact ⟨b, hb, fun e => hends (.inr (.inl ((hiff (by decide)).1 e)))⟩
  cases first with
  | true =>
    have hat := (Cursor.Near.trans h hspace).at_skipBlanks hplain
    obtain ⟨b, hb, hclose⟩ := hne hat
    exact ⟨_, by simp [nextElement, hb, hclose], hat⟩
  | false =>
    have hcomma := Cursor.Near.at_skipBlanks h endsItem_comma.startsPlain
    have hat := Cursor.Near.at_skipBlanks ⟨cs, hcomma.advance (by decide), hspace⟩ hplain
    obtain ⟨b, hb, hclose⟩ := hne hat
    have hcommaNe : ascii ',' ≠ ascii ']' := by decide
    exact ⟨_, by simp [nextElement, hcomma.peek? (by decide), hcommaNe, hb, hclose], hat⟩

theorem endList_of_near (h : c.Near (']' :: cs)) : ∃ c', endList c = .ok c' ∧ c'.At cs := by
  have hat := h.at_skipBlanks endsItems_bracket.endsItem.startsPlain
  exact ⟨_, by simp [endList, hat.peek? (by decide)], hat.advance (by decide)⟩

theorem elements_eq (r : Reader α) (first : Bool) (c : Cursor) : elements r first c =
    match nextElement first c with
    | .error e => .error e
    | .ok none => .ok ([], c)
    | .ok (some c₁) =>
      match r.read c₁ with
      | .error e => .error e
      | .ok (a, c₂) => (elements r false c₂).map fun x => (a :: x.1, x.2) := by
  rw [elements]
  split <;> rename_i hn <;> simp only [hn]
  split <;> rename_i hr <;> simp only [hr]

theorem elements_nil (h : nextElement first c = .ok none) : elements r first c = .ok ([], c) := by
  rw [elements_eq, h]

theorem elements_cons (h : nextElement first c = .ok (some c₁)) (hread : r.read c₁ = .ok (a, c₂)) :
    elements r first c = (elements r false c₂).map fun x => (a :: x.1, x.2) := by
  rw [elements_eq, h]
  simp only [hread]

/-- One element is read, and the cursor is left behind it. -/
theorem read_element (hu : Understands r.read v a) (h : Spells (.item v) cs rest)
    (hrest : EndsItem rest) (hc : c.AtNext first cs) :
    ∃ c₁ c₂, nextElement first c = .ok (some c₁) ∧ r.read c₁ = .ok (a, c₂) ∧ c₂.Near rest := by
  cases h with
  | item hfront hv hback =>
    obtain ⟨x, t, rfl, hx, hends⟩ := hv.head_value
    obtain ⟨c₁, hnext, hc₁⟩ := nextElement_of_atNext hc hfront hx hends
    obtain ⟨c₂, hread, hc₂⟩ := hu _ _ _ hv hback hrest c₁ hc₁.near
    exact ⟨c₁, c₂, hnext, hread, hc₂⟩

theorem elements_of_spells (hu : List.Forall₂ (Understands r.read) vs as)
    (h : Spells (.items vs) cs (']' :: rest)) (hne : vs ≠ [] ∨ first = true)
    (hc : c.AtNext first cs) :
    ∃ c', elements r first c = .ok (as, c') ∧ c'.Near (']' :: rest) := by
  induction hu generalizing first cs c with
  | nil =>
    have htrue := hne.resolve_left (· rfl)
    subst htrue
    cases h with
    | noItems hspace =>
      have hclose := Cursor.Near.trans hc hspace
      exact ⟨c, elements_nil (nextElement_of_close hclose), hclose⟩
  | @cons v a vs as hu hus ih =>
    rcases series_items.cases h with
      ⟨hnil, -⟩ | ⟨w, hone, hitem⟩ | ⟨w, w', ws, cs₁, hmore, hitem, hs⟩
    · cases hnil
    · cases hone
      cases hus
      obtain ⟨c₁, c₂, hnext, hread, hc₂⟩ := read_element hu hitem endsItems_bracket.endsItem hc
      refine ⟨c₂, ?_, hc₂⟩
      rw [elements_cons hnext hread, elements_nil (nextElement_of_close hc₂)]
      rfl
    · cases hmore
      obtain ⟨c₁, c₂, hnext, hread, hc₂⟩ := read_element hu hitem endsItem_comma hc
      obtain ⟨c', hrest, hc'⟩ := ih hs (.inl (List.cons_ne_nil _ _)) hc₂.atNext
      refine ⟨c', ?_, hc'⟩
      rw [elements_cons hnext hread, hrest]
      rfl

/-- A list is read as the list of what its elements are read as. -/
theorem understands_listValue (hu : List.Forall₂ (Understands r.read) vs as) :
    Understands (listValue r) (.list vs) as := by
  intro cs back rest h hback _ c hc
  have hplain := h.startsPlain_value
  cases h with
  | list hitems =>
    have hinside := (hc.at_skipBlanks hplain).advance (by decide)
    obtain ⟨c₁, helements, hc₁⟩ := elements_of_spells hu hitems (.inr rfl) hinside.atNext
    obtain ⟨c', hend, hc'⟩ := endList_of_near hc₁
    refine ⟨c', ?_, back, hc', hback⟩
    simp [listValue, valueStart_of_near (by decide) hplain hc, bind, Except.bind, helements, hend,
      pure, Except.pure]

/-! ### Objects -/

theorem nextKey_of_close (h : c.Near ('\x7d' :: cs)) : nextKey first c = .ok none := by
  have hat := h.at_skipBlanks endsItems_brace.endsItem.startsPlain
  simp [nextKey, hat.peek? (by decide)]

theorem nextKey_of_atNext {cs₁ : List Char} (h : c.AtNext first cs)
    (hspace : Space cs ('"' :: cs₁)) :
    ∃ c', nextKey first c = .ok (some c') ∧ c'.At ('"' :: cs₁) := by
  have hquote : ascii '"' ≠ ascii '\x7d' := by decide
  cases first with
  | true =>
    have hat := (Cursor.Near.trans h hspace).at_skipBlanks startsPlain_quote
    exact ⟨_, by simp [nextKey, hat.peek? (by decide), hquote], hat⟩
  | false =>
    have hcomma := Cursor.Near.at_skipBlanks h endsItem_comma.startsPlain
    have hat := Cursor.Near.at_skipBlanks ⟨cs, hcomma.advance (by decide), hspace⟩ startsPlain_quote
    have hcommaNe : ascii ',' ≠ ascii '\x7d' := by decide
    exact ⟨_, by simp [nextKey, hcomma.peek? (by decide), hcommaNe, hat.peek? (by decide)], hat⟩

theorem colon_of_near (h : c.Near (':' :: cs)) : ∃ c', colon c = .ok c' ∧ c'.At cs := by
  have hat := h.at_skipBlanks startsPlain_colon
  exact ⟨_, by simp [colon, hat.peek? (by decide)], hat.advance (by decide)⟩

variable {m : MemberReader σ} {t u : σ} {ms : List (List Nat × Value)} {key : String}

theorem members_eq (m : MemberReader σ) (first : Bool) (t : σ) (c : Cursor) :
    members m first t c =
      match nextKey first c with
      | .error e => .error e
      | .ok none => .ok (t, c)
      | .ok (some c₁) =>
        match string c₁.advance with
        | .error e => .error e
        | .ok (key, c₂) =>
          match m.read t key c₂ with
          | .error e => .error e
          | .ok (u, c₃) => members m false u c₃ := by
  rw [members]
  split <;> rename_i hn <;> simp only [hn]
  split <;> rename_i hk <;> simp only [hk]
  split <;> rename_i hr <;> simp only [hr]

theorem members_nil (h : nextKey first c = .ok none) : members m first t c = .ok (t, c) := by
  rw [members_eq, h]

theorem members_cons {c₃ : Cursor} (h : nextKey first c = .ok (some c₁))
    (hkey : string c₁.advance = .ok (key, c₂)) (hread : m.read t key c₂ = .ok (u, c₃)) :
    members m first t c = members m false u c₃ := by
  rw [members_eq, h]
  simp only [hkey, hread]

/-- Behind the key, the reader takes the value up into the record. -/
def Takes (m : MemberReader σ) (t : σ) (key : String) (v : Value) (u : σ) : Prop :=
  ∀ cs rest, Spells (.item v) cs rest → EndsItem rest →
    ∀ c : Cursor, c.Near (':' :: cs) → ∃ c', m.read t key c = .ok (u, c') ∧ c'.Near rest

/-- The reader takes the members up one by one. -/
inductive Fills (m : MemberReader σ) : σ → List (List Nat × Value) → σ → Prop
  | nil (t : σ) : Fills m t [] t
  | cons {t u w : σ} {key : String} {v : Value} {ms : List (List Nat × Value)}
      (h : Takes m t key v u) (hs : Fills m u ms w) : Fills m t ((units key, v) :: ms) w

/-- One member is taken up, and the cursor is left behind it. -/
theorem read_member (ht : Takes m t key v u) (h : Spells (.member (units key, v)) cs rest)
    (hrest : EndsItem rest) (hc : c.AtNext first cs) :
    ∃ c₁ c₂ c₃, nextKey first c = .ok (some c₁) ∧ string c₁.advance = .ok (key, c₂) ∧
      m.read t key c₂ = .ok (u, c₃) ∧ c₃.Near rest := by
  cases h with
  | member hfront hkey hcolon hv =>
    obtain ⟨c₁, hnext, hc₁⟩ := nextKey_of_atNext hc hfront
    obtain ⟨c₂, hstring, hc₂⟩ := string_of_body hkey (hc₁.advance (by decide))
    obtain ⟨c₃, hread, hc₃⟩ := ht _ _ hv hrest c₂ ⟨_, hc₂, hcolon⟩
    exact ⟨c₁, c₂, c₃, hnext, hstring, hread, hc₃⟩

theorem members_of_spells (hf : Fills m t ms u) (h : Spells (.members ms) cs ('\x7d' :: rest))
    (hne : ms ≠ [] ∨ first = true) (hc : c.AtNext first cs) :
    ∃ c', members m first t c = .ok (u, c') ∧ c'.Near ('\x7d' :: rest) := by
  induction hf generalizing first cs c with
  | nil t =>
    have htrue := hne.resolve_left (· rfl)
    subst htrue
    cases h with
    | noMembers hspace =>
      have hclose := Cursor.Near.trans hc hspace
      exact ⟨c, members_nil (nextKey_of_close hclose), hclose⟩
  | cons ht hs ih =>
    rcases series_members.cases h with
      ⟨hnil, -⟩ | ⟨w, hone, hmem⟩ | ⟨w, w', ws, cs₁, hmore, hmem, hms⟩
    · cases hnil
    · cases hone
      cases hs
      obtain ⟨c₁, c₂, c₃, hnext, hkey, hread, hc₃⟩ :=
        read_member ht hmem endsItems_brace.endsItem hc
      refine ⟨c₃, ?_, hc₃⟩
      rw [members_cons hnext hkey hread, members_nil (nextKey_of_close hc₃)]
    · cases hmore
      obtain ⟨c₁, c₂, c₃, hnext, hkey, hread, hc₃⟩ := read_member ht hmem endsItem_comma hc
      obtain ⟨c', hrest, hc'⟩ := ih hms (.inl (List.cons_ne_nil _ _)) hc₃.atNext
      exact ⟨c', by rw [members_cons hnext hkey hread, hrest], hc'⟩

theorem endObject_of_near (h : c.Near ('\x7d' :: cs)) : ∃ c', endObject c = .ok c' ∧ c'.At cs := by
  have hat := h.at_skipBlanks endsItems_brace.endsItem.startsPlain
  exact ⟨_, by simp [endObject, hat.peek? (by decide)], hat.advance (by decide)⟩

end BulkSuppress.Json
