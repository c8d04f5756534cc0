import BulkSuppress.Proofs.Json.Grammar

/-
  A text spells one JSON value at most. The induction is on how a part is spelled: another way to
  spell a part of the same sort at the beginning of the same text is the same way, and leaves the
  same rest (`Spells.alone`). For this it has to be clear from the rests where the parts end. A number
  ends in front of a character that cannot go on with it, and blanks end in front of one that is no
  blank; a list of elements ends in front of its bracket.
-/

namespace BulkSuppress.Json

variable {cs cs₁ cs₂ rest rest' : List Char} {v w : Value} {us us' : List Nat}

/-! ## Blanks and strings -/

/-- The text does not begin with a blank. -/
def StartsPlain (cs : List Char) : Prop := ∀ c ∈ cs.head?, isSpace c = false

/-- Blanks go up to the first character that is none. -/
theorem Space.unique (h : Space cs rest) (h' : Space cs rest') (hr : StartsPlain rest)
    (hr' : StartsPlain rest') : rest = rest' := by
  induction h with
  | none cs =>
    cases h' with
    | none => rfl
    | more hc => simp [hr _ rfl] at hc
  | more hc h ih =>
    cases h' with
    | none => simp [hr' _ rfl] at hc
    | more hc' h' => exact ih h' hr

theorem Space.trans (h : Space cs cs₁) (h' : Space cs₁ rest) : Space cs rest := by
  induction h with
  | none => exact h'
  | more hc _ ih => exact .more hc (ih h')

/-- A letter stands for one code unit. -/
theorem shortEscapes_functional :
    ∀ p ∈ shortEscapes, ∀ q ∈ shortEscapes, p.1 = q.1 → p.2 = q.2 := by
  decide

/-- An escape with digits is no short one. -/
theorem ne_of_mem_shortEscapes : ∀ p ∈ shortEscapes, p.1 ≠ 'u' := by
  decide

theorem Body.unique (h : Body us cs rest) (h' : Body us' cs rest') : us = us' ∧ rest = rest' := by
  induction h generalizing us' with
  | close =>
    cases h' with
    | close => exact ⟨rfl, rfl⟩
    | plain hc hq => exact absurd rfl hq
  | plain hc hq hb h ih =>
    cases h' with
    | close => exact absurd rfl hq
    | plain hc' hq' hb' h' =>
      obtain ⟨rfl, rfl⟩ := ih h'
      exact ⟨rfl, rfl⟩
    | short he h' => exact absurd rfl hb
    | code hu h' => exact absurd rfl hb
  | short he h ih =>
    cases h' with
    | plain hc hq hb => exact absurd rfl hb
    | short he' h' =>
      obtain ⟨rfl, rfl⟩ := ih h'
      have hu := shortEscapes_functional _ he _ he' rfl
      exact ⟨congrArg (· :: _) hu, rfl⟩
    | code hu h' => exact absurd rfl (ne_of_mem_shortEscapes _ he)
  | code hu h ih =>
    cases h' with
    | plain hc hq hb => exact absurd rfl hb
    | short he' h' => exact absurd rfl (ne_of_mem_shortEscapes _ he')
    | code hu' h' =>
      obtain ⟨rfl, rfl⟩ := ih h'
      rw [hu] at hu'
      exact ⟨by rw [Option.some.inj hu'], rfl⟩

/-! ## Numbers -/

/-- The character may be part of a number. -/
def isNumeric (c : Char) : Bool :=
  c.isDigit || c == '-' || c == '+' || c == '.' || c == 'e' || c == 'E'

/-- A number that the text begins with does not go on. -/
def EndsNumber (cs : List Char) : Prop := ∀ c ∈ cs.head?, isNumeric c = false

theorem IsDigits.isNumeric {ds : List Char} (h : IsDigits ds) : ∀ c ∈ ds, isNumeric c = true :=
  fun c hc => by simp [Json.isNumeric, h.2 c hc]

theorem NumberParts.isNumeric {sign whole fraction exponent : List Char}
    (h : NumberParts sign whole fraction exponent) :
    ∀ c ∈ sign ++ whole ++ fraction ++ exponent, isNumeric c = true := by
  simp only [List.forall_mem_append]
  refine ⟨⟨⟨?_, h.digits.isNumeric⟩, ?_⟩, ?_⟩
  · rcases h.signs with rfl | rfl
    · exact List.forall_mem_nil _
    · exact List.forall_mem_singleton.2 rfl
  · rcases h.decimals with rfl | ⟨ds, hds, rfl⟩
    · exact List.forall_mem_nil _
    · exact List.forall_mem_cons.2 ⟨rfl, hds.isNumeric⟩
  · rcases h.power with rfl | ⟨e, s, ds, he, hs, hds, rfl⟩
    · exact List.forall_mem_nil _
    · refine List.forall_mem_cons.2 ⟨?_, List.forall_mem_append.2 ⟨?_, hds.isNumeric⟩⟩
      · rcases he with rfl | rfl <;> rfl
      · rcases hs with rfl | rfl | rfl
        · exact List.forall_mem_nil _
        · exact List.forall_mem_singleton.2 rfl
        · exact List.forall_mem_singleton.2 rfl

/-- A number begins with a digit or a minus sign. -/
theorem IsNumber.head {literal : List Char} (h : IsNumber literal) :
    ∃ c ds, literal = c :: ds ∧ (c.isDigit = true ∨ c = '-') := by
  obtain ⟨sign, whole, fraction, exponent, hp, rfl⟩ := h
  obtain ⟨c, ds, rfl⟩ := List.exists_cons_of_ne_nil hp.digits.1
  rcases hp.signs with rfl | rfl
  · exact ⟨c, _, rfl, .inl (hp.digits.2 c List.mem_cons_self)⟩
  · exact ⟨'-', _, rfl, .inr rfl⟩

/-- A number goes up to the first character that cannot be part of it. -/
theorem IsNumber.eq_takeWhile {literal : List Char} (h : IsNumber literal) (hr : EndsNumber rest) :
    (literal ++ rest).takeWhile isNumeric = literal := by
  have hall : ∀ c ∈ literal, isNumeric c = true := by
    obtain ⟨sign, whole, fraction, exponent, hp, rfl⟩ := h
    exact hp.isNumeric
  have hstop : rest.takeWhile isNumeric = [] := by
    cases rest with
    | nil => rfl
    | cons c rest => simp [hr c rfl]
  rw [List.takeWhile_append_of_pos hall, hstop, List.append_nil]

theorem IsNumber.unique {literal literal' : List Char} (h : IsNumber literal)
    (h' : IsNumber literal') (htext : literal ++ rest = literal' ++ rest')
    (hr : EndsNumber rest) (hr' : EndsNumber rest') : literal = literal' ∧ rest = rest' := by
  have hsame : literal = literal' := by
    rw [← h.eq_takeWhile hr, htext, h'.eq_takeWhile hr']
  subst hsame
  exact ⟨rfl, List.append_cancel_left htext⟩

/-! ## Values -/

/-- What may come behind an element or a member. -/
def EndsItem (cs : List Char) : Prop := ∀ c ∈ cs.head?, c = ',' ∨ c = ']' ∨ c = '\x7d'

/-- What may come behind all elements or members. -/
def EndsItems (cs : List Char) : Prop := ∀ c ∈ cs.head?, c = ']' ∨ c = '\x7d'

theorem EndsItems.endsItem (h : EndsItems cs) : EndsItem cs := fun c hc => .inr (h c hc)

theorem EndsItem.startsPlain (h : EndsItem cs) : StartsPlain cs := by
  intro c hc
  rcases h c hc with rfl | rfl | rfl <;> rfl

/-- Behind a value there are blanks or the end of the item, which no number can go on with. -/
theorem Space.endsNumber (h : Space cs rest) (hr : EndsItem rest) : EndsNumber cs := by
  intro c hc
  cases h with
  | none => rcases hr c hc with rfl | rfl | rfl <;> rfl
  | more hspace =>
    cases hc
    simp only [isSpace, Bool.or_eq_true, beq_iff_eq] at hspace
    rcases hspace with ((rfl | rfl) | rfl) | rfl <;> rfl

theorem IsNumber.head_of_eq {literal : List Char} {c : Char} (h : IsNumber literal)
    (htext : c :: cs = literal ++ rest) : c.isDigit = true ∨ c = '-' := by
  obtain ⟨c', ds, rfl, hc⟩ := h.head
  cases htext
  exact hc

/-- A value begins with a character that is no blank and ends nothing. -/
theorem Spells.head_value (h : Spells (.value v) cs rest) :
    ∃ c t, cs = c :: t ∧ isSpace c = false ∧ ¬ (c = ',' ∨ c = ']' ∨ c = '\x7d') := by
  cases h with
  | null => exact ⟨_, _, rfl, by decide, by decide⟩
  | yes => exact ⟨_, _, rfl, by decide, by decide⟩
  | no => exact ⟨_, _, rfl, by decide, by decide⟩
  | string h => exact ⟨_, _, rfl, by decide, by decide⟩
  | list h => exact ⟨_, _, rfl, by decide, by decide⟩
  | object h => exact ⟨_, _, rfl, by decide, by decide⟩
  | number h htext =>
    obtain ⟨c, ds, rfl, hc⟩ := h.head
    refine ⟨c, _, htext, ?_, ?_⟩
    · rw [← Bool.not_eq_true]
      intro hspace
      simp only [isSpace, Bool.or_eq_true, beq_iff_eq] at hspace
      rcases hspace with ((rfl | rfl) | rfl) | rfl <;> revert hc <;> decide
    · rintro (rfl | rfl | rfl) <;> revert hc <;> decide

theorem Spells.startsPlain_value (h : Spells (.value v) cs rest) : StartsPlain cs := by
  obtain ⟨c, t, rfl, hspace, -⟩ := h.head_value
  rintro _ ⟨⟩
  exact hspace

/-- What begins with a comma does not end all items. -/
theorem not_endsItems_comma : ¬ EndsItems (',' :: cs) := fun h =>
  absurd (h ',' rfl) (by decide)

theorem startsPlain_quote : StartsPlain ('"' :: cs) := by
  rintro _ ⟨⟩
  rfl

theorem startsPlain_colon : StartsPlain (':' :: cs) := by
  rintro _ ⟨⟩
  rfl

theorem endsItems_bracket : EndsItems (']' :: cs) := by
  rintro _ ⟨⟩
  exact .inl rfl

theorem endsItems_brace : EndsItems ('\x7d' :: cs) := by
  rintro _ ⟨⟩
  exact .inr rfl

theorem endsItem_comma : EndsItem (',' :: cs) := by
  rintro _ ⟨⟩
  exact .inl rfl

/-! ## One way at most -/

/-- At the beginning of the text only `a` is spelled, of all that `make` makes parts of. -/
def Sole {α : Type} (make : α → Part) (ends : List Char → Prop) (a : α) (cs rest : List Char) :
    Prop :=
  ∀ b rest', Spells (make b) cs rest' → ends rest → ends rest' → a = b ∧ rest = rest'

/-- A part that is spelled at the beginning of the text is the only one of its sort. -/
def Part.Alone : Part → List Char → List Char → Prop
  | .value v => Sole .value EndsNumber v
  | .item v => Sole .item EndsItem v
  | .items vs => Sole .items EndsItems vs
  | .member m => Sole .member EndsItem m
  | .members ms => Sole .members EndsItems ms

/-- Many parts are blanks only, or parts with commas between them. -/
structure Series {α : Type} (one : α → Part) (many : List α → Part) : Prop where
  cases : ∀ {as cs rest}, Spells (many as) cs rest →
    (as = [] ∧ Space cs rest) ∨ (∃ a, as = [a] ∧ Spells (one a) cs rest) ∨
      ∃ a b bs cs₁, as = a :: b :: bs ∧ Spells (one a) cs (',' :: cs₁) ∧
        Spells (many (b :: bs)) cs₁ rest
  starts : ∀ {cs rest}, Space cs rest → EndsItems rest → ∀ a r, ¬ Spells (one a) cs r

namespace Series

variable {α : Type} {one : α → Part} {many : List α → Part} {a b : α} {bs : List α}

theorem sole_nil (hs : Series one many) (h : Space cs rest) : Sole many EndsItems [] cs rest := by
  intro bs rest' h' hr hr'
  rcases hs.cases h' with ⟨rfl, hspace⟩ | ⟨b, -, hone⟩ | ⟨b, -, -, cs₁, -, hone, -⟩
  · exact ⟨rfl, h.unique hspace hr.endsItem.startsPlain hr'.endsItem.startsPlain⟩
  · exact absurd hone (hs.starts h hr b _)
  · exact absurd hone (hs.starts h hr b _)

theorem sole_one (hs : Series one many) (h : Spells (one a) cs rest)
    (ih : Sole one EndsItem a cs rest) : Sole many EndsItems [a] cs rest := by
  intro bs rest' h' hr hr'
  rcases hs.cases h' with ⟨rfl, hspace⟩ | ⟨b, rfl, hone⟩ | ⟨b, -, -, cs₁, -, hone, -⟩
  · exact absurd h (hs.starts hspace hr' a _)
  · obtain ⟨rfl, rfl⟩ := ih b rest' hone hr.endsItem hr'.endsItem
    exact ⟨rfl, rfl⟩
  · obtain ⟨-, rfl⟩ := ih b (',' :: cs₁) hone hr.endsItem endsItem_comma
    exact absurd hr not_endsItems_comma

theorem sole_more (hs : Series one many) (h : Spells (one a) cs (',' :: cs₁))
    (ih : Sole one EndsItem a cs (',' :: cs₁)) (ihs : Sole many EndsItems (b :: bs) cs₁ rest) :
    Sole many EndsItems (a :: b :: bs) cs rest := by
  intro ds rest' h' hr hr'
  rcases hs.cases h' with ⟨rfl, hspace⟩ | ⟨c, -, hone⟩ | ⟨c, d, ds, cs₂, rfl, hone, hmore⟩
  · exact absurd h (hs.starts hspace hr' a _)
  · obtain ⟨-, rfl⟩ := ih c rest' hone endsItem_comma hr'.endsItem
    exact absurd hr' not_endsItems_comma
  · obtain ⟨rfl, hrest⟩ := ih c (',' :: cs₂) hone endsItem_comma endsItem_comma
    cases hrest
    obtain ⟨hsame, rfl⟩ := ihs _ rest' hmore hr hr'
    exact ⟨congrArg _ hsame, rfl⟩

end Series

theorem series_items : Series .item .items where
  cases h := by
    cases h with
    | noItems h => exact .inl ⟨rfl, h⟩
    | lastItem h => exact .inr (.inl ⟨_, rfl, h⟩)
    | moreItems h hs => exact .inr (.inr ⟨_, _, _, _, rfl, h, hs⟩)
  starts h hr v r h' := by
    cases h' with
    | item hfront hv hback =>
      cases h.unique hfront hr.endsItem.startsPlain hv.startsPlain_value
      obtain ⟨c, t, rfl, -, hends⟩ := hv.head_value
      exact hends (.inr (hr c rfl))

theorem series_members : Series .member .members where
  cases h := by
    cases h with
    | noMembers h => exact .inl ⟨rfl, h⟩
    | lastMember h => exact .inr (.inl ⟨_, rfl, h⟩)
    | moreMembers h hs => exact .inr (.inr ⟨_, _, _, _, rfl, h, hs⟩)
  starts h hr m r h' := by
    cases h' with
    | member hfront hkey hcolon hv =>
      cases h.unique hfront hr.endsItem.startsPlain startsPlain_quote
      exact absurd (hr '"' rfl) (by decide)

/-- Whatever part is spelled, it is the only one of its sort. -/
theorem Spells.alone {part : Part} (h : Spells part cs rest) : part.Alone cs rest := by
  induction h with
  | null =>
    intro w rest' h' hr hr'
    cases h' with
    | null => exact ⟨rfl, rfl⟩
    | number hn htext => exact absurd (hn.head_of_eq htext) (by decide)
  | yes =>
    intro w rest' h' hr hr'
    cases h' with
    | yes => exact ⟨rfl, rfl⟩
    | number hn htext => exact absurd (hn.head_of_eq htext) (by decide)
  | no =>
    intro w rest' h' hr hr'
    cases h' with
    | no => exact ⟨rfl, rfl⟩
    | number hn htext => exact absurd (hn.head_of_eq htext) (by decide)
  | number hn htext =>
    intro w rest' h' hr hr'
    cases h' with
    | number hn' htext' =>
      obtain ⟨rfl, rfl⟩ := hn.unique hn' (htext.symm.trans htext') hr hr'
      exact ⟨rfl, rfl⟩
    | _ => exact absurd (hn.head_of_eq htext) (by decide)
  | string hbody =>
    intro w rest' h' hr hr'
    cases h' with
    | string hbody' =>
      obtain ⟨rfl, rfl⟩ := hbody.unique hbody'
      exact ⟨rfl, rfl⟩
    | number hn htext => exact absurd (hn.head_of_eq htext) (by decide)
  | list hitems ih =>
    intro w rest' h' hr hr'
    cases h' with
    | list hitems' =>
      obtain ⟨rfl, hrest⟩ := ih _ _ hitems' endsItems_bracket endsItems_bracket
      cases hrest
      exact ⟨rfl, rfl⟩
    | number hn htext => exact absurd (hn.head_of_eq htext) (by decide)
  | object hmembers ih =>
    intro w rest' h' hr hr'
    cases h' with
    | object hmembers' =>
      obtain ⟨rfl, hrest⟩ := ih _ _ hmembers' endsItems_brace endsItems_brace
      cases hrest
      exact ⟨rfl, rfl⟩
    | number hn htext => exact absurd (hn.head_of_eq htext) (by decide)
  | item hfront hv hback ih =>
    intro w rest' h' hr hr'
    cases h' with
    | item hfront' hv' hback' =>
      cases hfront.unique hfront' hv.startsPlain_value hv'.startsPlain_value
      obtain ⟨rfl, rfl⟩ := ih _ _ hv' (hback.endsNumber hr) (hback'.endsNumber hr')
      exact ⟨rfl, hback.unique hback' hr.startsPlain hr'.startsPlain⟩
  | member hfront hkey hcolon hv ih =>
    intro m rest' h' hr hr'
    cases h' with
    | member hfront' hkey' hcolon' hv' =>
      cases hfront.unique hfront' startsPlain_quote startsPlain_quote
      obtain ⟨rfl, rfl⟩ := hkey.unique hkey'
      cases hcolon.unique hcolon' startsPlain_colon startsPlain_colon
      obtain ⟨rfl, rfl⟩ := ih _ _ hv' hr hr'
      exact ⟨rfl, rfl⟩
  | noItems hspace => exact series_items.sole_nil hspace
  | lastItem hv ih => exact series_items.sole_one hv ih
  | moreItems hv hs ih ihs => exact series_items.sole_more hv ih ihs
  | noMembers hspace => exact series_members.sole_nil hspace
  | lastMember hm ih => exact series_members.sole_one hm ih
  | moreMembers hm hs ih ihs => exact series_members.sole_more hm ih ihs

/-- A text spells one value at most. -/
theorem IsText.unique (h : IsText v cs) (h' : IsText w cs) : v = w :=
  (h.alone w [] h' (by rintro _ ⟨⟩) (by rintro _ ⟨⟩)).1

end BulkSuppress.Json
