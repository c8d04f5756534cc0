import BulkSuppress.Proofs.Json.Reading

/-
  What the grammar spells and is not read. A string that escapes half of a surrogate pair has no
  text, and fails wherever it is read (`string_fails`), where skipping would pass over it. A list
  fails with the first of its elements that does (`elements_fails`), an object with the first member
  whose key is no text or whose value is refused (`members_of_blocks`).

  With this, a reader is known from both sides: a value meets what it is read as, or nothing if
  reading it fails (`Meets`), and so do the members of an object (`runs_of_steps`).
-/

namespace BulkSuppress.Json

variable {c c₁ c₂ : Cursor} {x y : Char} {cs rest : List Char} {v : Value} {us : List Nat}
variable {α β σ : Type} {first : Bool}

/-! ## Strings -/

theorem hexDigit?_lt {n : Nat} (h : hexDigit? x = some n) : n < 0x10 := by
  have htoNat {a b : Char} (hab : a ≤ b) : a.toNat ≤ b.toNat :=
    UInt32.le_iff_toNat_le.1 (Char.le_def.1 hab)
  unfold hexDigit? at h
  split at h
  · rename_i hx
    cases h
    have hle : x.toNat ≤ 0x39 := htoNat hx.2
    have hzero : '0'.toNat = 0x30 := rfl
    omega
  split at h
  · rename_i hx
    cases h
    have hle : x.toNat ≤ 0x66 := htoNat hx.2
    have ha : 'a'.toNat = 0x61 := rfl
    omega
  split at h
  · rename_i hx
    cases h
    have hle : x.toNat ≤ 0x46 := htoNat hx.2
    have ha : 'A'.toNat = 0x41 := rfl
    omega
  · cases h

/-- Four digits are no more than a code unit. -/
theorem hexDigits?_lt {a b d e : Char} {n : Nat} (h : hexDigits? a b d e = some n) :
    n < 0x10000 := by
  simp only [hexDigits?, Option.bind_eq_bind, Option.pure_def, Option.bind_eq_some_iff] at h
  obtain ⟨na, ha, nb, hb, nd, hd, ne, he, hnum⟩ := h
  cases hnum
  have := hexDigit?_lt ha
  have := hexDigit?_lt hb
  have := hexDigit?_lt hd
  have := hexDigit?_lt he
  omega

theorem pairByte_fails (hy : y.toNat < 0x80) (hxy : x ≠ y) (h : c.At (x :: cs)) :
    ∃ e, pairByte (ascii y) c = .error e := by
  obtain ⟨b, hpeek, hb⟩ := h.exists_peek?
  rw [pairByte, hpeek]
  exact ⟨_, if_neg fun e => hxy ((hb hy).1 e)⟩

/-- Behind the escape of a first half, anything but the escape of a second half fails. -/
theorem unicodeEscape_leading {a b d e : Char} {u : Nat} (hu : hexDigits? a b d e = some u)
    (hlead : isLeading u = true) (h : Body us cs rest)
    (hus : ∀ w ∈ us.head?, isTrailing w = false) (hc : c.At (a :: b :: d :: e :: cs)) :
    ∃ e, unicodeEscape c = .error e := by
  obtain ⟨c₁, hhex, hc₁⟩ := hexEscape_of_digits hu hc
  have htrail := isTrailing_of_isLeading hlead
  have hfirst {x : Char} {cs : List Char} (hx : x ≠ '\\') (hc₁ : c₁.At (x :: cs)) :
      ∃ e, unicodeEscape c = .error e := by
    obtain ⟨e, he⟩ := pairByte_fails (y := '\\') (by decide) hx hc₁
    have hbyte : pairByte 0x5C c₁ = .error e := he
    exact ⟨e, by simp [unicodeEscape, hhex, hlead, htrail, hbyte, bind, Except.bind]⟩
  have hslash {cs : List Char} (hc₁ : c₁.At ('\\' :: cs)) : pairByte 0x5C c₁ = .ok c₁.advance :=
    pairByte_at (by decide) hc₁
  cases h with
  | close => exact hfirst (by decide) hc₁
  | plain _ _ hb => exact hfirst hb hc₁
  | short he =>
    have hc₂ := hc₁.advance (by decide)
    obtain ⟨e, he⟩ := pairByte_fails (y := 'u') (by decide) (ne_of_mem_shortEscapes _ he) hc₂
    have hbyte : pairByte 0x75 c₁.advance = .error e := he
    exact ⟨e, by simp [unicodeEscape, hhex, hlead, htrail, hslash hc₁, hbyte, bind, Except.bind]⟩
  | @code _ _ _ _ w _ _ _ hw =>
    have hc₂ := hc₁.advance (by decide)
    have hbyte : pairByte 0x75 c₁.advance = .ok c₁.advance.advance := pairByte_at (by decide) hc₂
    obtain ⟨c₃, hhex', hc₃⟩ := hexEscape_of_digits hw (hc₂.advance (by decide))
    refine ⟨⟨.loneSurrogate, c₃.place⟩, ?_⟩
    simp [unicodeEscape, hhex, hlead, htrail, hslash hc₁, hbyte, hhex', hus w rfl, Cursor.fail,
      bind, Except.bind]

theorem unicodeEscape_trailing {a b d e : Char} {u : Nat} (hu : hexDigits? a b d e = some u)
    (htrail : isTrailing u = true) (hc : c.At (a :: b :: d :: e :: cs)) :
    ∃ e, unicodeEscape c = .error e := by
  obtain ⟨c₁, hhex, hc₁⟩ := hexEscape_of_digits hu hc
  refine ⟨⟨.loneSurrogate, c₁.place⟩, ?_⟩
  simp [unicodeEscape, hhex, htrail, Cursor.fail, bind, Except.bind]

theorem surrogate_cases {u : Nat} (hlt : u < 0x10000) (h : isScalar u = false) :
    isLeading u = true ∨ isTrailing u = true := by
  simp only [isScalar, Bool.or_eq_false_iff, Bool.and_eq_false_imp, decide_eq_true_eq,
    decide_eq_false_iff_not] at h
  simp only [isLeading, isTrailing, Bool.and_eq_true, decide_eq_true_eq]
  omega

/-- A string that starts with half of a pair is not read. -/
theorem stringBytes_lone {u : Nat} {vs : List Nat} (h : Body vs cs rest) (hvs : vs = u :: us)
    (hscalar : isScalar u = false)
    (hus : isLeading u = true → ∀ w ∈ us.head?, isTrailing w = false) (hc : c.At cs) :
    ∃ e, stringBytes c = .error e := by
  cases h with
  | close => cases hvs
  | @plain x us' _ _ _ _ _ h =>
    exfalso
    rcases unitsOf_cases x with ⟨hx, -, -⟩ | ⟨high, low, hx, hhigh, hlow, -⟩ <;> rw [hx] at hvs <;>
      cases hvs
    · rw [isScalar_toNat hx] at hscalar
      cases hscalar
    · rw [hus hhigh low rfl] at hlow
      cases hlow
  | @short e u' _ _ _ he h =>
    cases hvs
    have hall : ∀ p ∈ shortEscapes, isScalar p.2 = true := by decide
    rw [hall _ he] at hscalar
    cases hscalar
  | @code a b d e u' us' cs' _ hu h =>
    cases hvs
    have hpeek : c.peek? = some 0x5C := hc.peek? (by decide)
    have hu' := hc.advance (by decide)
    have hfails : ∃ e, unicodeEscape c.advance.advance = .error e := by
      rcases surrogate_cases (hexDigits?_lt hu) hscalar with hlead | htrail
      · exact unicodeEscape_leading hu hlead h (hus hlead) (hu'.advance (by decide))
      · exact unicodeEscape_trailing hu htrail (hu'.advance (by decide))
    obtain ⟨e, he⟩ := hfails
    refine ⟨e, ?_⟩
    rw [stringBytes_of_peek? hpeek, if_neg (by decide), if_pos rfl, escape_unicode hu', he]
    rfl

/-- A string is not read if it is not behind its first character. -/
theorem stringBytes_fails_behind {vs : List Nat} (h : Body us cs rest) (hx : us = unitsOf x ++ vs)
    (hc : c.At cs) (hbehind : ∀ {c : Cursor} {cs : List Char}, Body vs cs rest → c.At cs →
      ∃ e, stringBytes c = .error e) : ∃ e, stringBytes c = .error e := by
  obtain ⟨c₁, cs₁, hbody, hc₁, hread⟩ := stringBytes_of_firstSpelled (h.firstSpelled hx) hc
  obtain ⟨e, he⟩ := hbehind hbody hc₁
  exact ⟨e, by rw [hread, he]; rfl⟩

/-- A string that is no text is not read. -/
theorem stringBytes_fails (h : Body us cs rest) (hus : charsOf? us = none) (hc : c.At cs) :
    ∃ e, stringBytes c = .error e := by
  -- decoding stops where reading does: at half of a pair, behind characters that are read
  fun_induction charsOf? us generalizing c cs with
  | case1 => cases hus
  | case2 => cases hus
  | case3 u hu => exact stringBytes_lone h rfl (by simpa using hu) (by simp) hc
  | case4 u v us hu ih =>
    have hx : u :: v :: us = unitsOf (Char.ofNat u) ++ v :: us := by
      rw [unitsOf_scalar hu]
      rfl
    exact stringBytes_fails_behind h hx hc fun h hc => ih h (by simpa using hus) hc
  | case5 u v us hu hpair ih =>
    rw [Bool.and_eq_true] at hpair
    have hx : u :: v :: us = unitsOf (pairOf u v) ++ us := by
      rw [unitsOf_pairOf hpair.1 hpair.2]
      rfl
    exact stringBytes_fails_behind h hx hc fun h hc => ih h (by simpa using hus) hc
  | case6 u v us hu hpair =>
    refine stringBytes_lone h rfl (by simpa using hu) (fun hlead w hw => ?_) hc
    cases hw
    simpa [hlead] using hpair

theorem string_fails (h : Body us cs rest) (hus : textOf? us = none) (hc : c.At cs) :
    ∃ e, string c = .error e := by
  obtain ⟨e, he⟩ := stringBytes_fails h (Option.map_eq_none_iff.1 hus) hc
  exact ⟨e, by rw [string, he]; rfl⟩

/-! ## Values of known types -/

/-- Wherever the value is spelled, reading it fails. -/
def Fails (read : Cursor → Except Error (α × Cursor)) (v : Value) : Prop :=
  ∀ cs back rest, Spells (.value v) cs back → Space back rest → EndsItem rest →
    ∀ c : Cursor, c.Near cs → ∃ e, read c = .error e

/-- The value is read as what is given, or fails where nothing is. -/
def Meets (read : Cursor → Except Error (α × Cursor)) (v : Value) : Option α → Prop
  | some a => Understands read v a
  | none => Fails read v

theorem fails_textValue (hus : textOf? us = none) : Fails textValue (.string us) := by
  intro cs back rest h _ _ c hc
  cases h with
  | string hbody =>
    have hquote := hc.at_skipBlanks startsPlain_quote
    obtain ⟨e, he⟩ := string_fails hbody hus (hquote.advance (by decide))
    refine ⟨e, ?_⟩
    simp [textValue, valueStart_of_near (by decide) startsPlain_quote hc, bind, Except.bind, he]

/-- A string is read as the text that its code units are. -/
theorem meets_textValue (us : List Nat) : Meets textValue (.string us) (textOf? us) := by
  cases h : textOf? us with
  | none => exact fails_textValue h
  | some s => exact textOf?_eq_some_iff.1 h ▸ understands_textValue s

/-! ### Lists -/

variable {r : Reader α} {val : β → Value} {f : β → Option α}

theorem elements_fails_first (hf : Fails r.read v) (h : Spells (.item v) cs rest)
    (hrest : EndsItem rest) (hc : c.AtNext first cs) : ∃ e, elements r first c = .error e := by
  cases h with
  | item hfront hv hback =>
    obtain ⟨x, t, rfl, hx, hends⟩ := hv.head_value
    obtain ⟨c₁, hnext, hc₁⟩ := nextElement_of_atNext hc hfront hx hends
    obtain ⟨e, hread⟩ := hf _ _ _ hv hback hrest c₁ hc₁.near
    exact ⟨e, by rw [elements_eq, hnext]; simp only [hread]⟩

/-- Elements fail with the first of them that does. -/
theorem elements_fails {bs : List β} (hm : ∀ b, Meets r.read (val b) (f b))
    (hnone : bs.mapM f = none) (h : Spells (.items (bs.map val)) cs (']' :: rest))
    (hc : c.AtNext first cs) : ∃ e, elements r first c = .error e := by
  induction bs generalizing first cs c with
  | nil => cases hnone
  | cons b bs ih =>
    have hone {rest : List Char} (hitem : Spells (.item (val b)) cs rest) (hrest : EndsItem rest)
        (hmore : ∀ c₂ : Cursor, c₂.Near rest → bs.mapM f = none →
          ∃ e, elements r false c₂ = .error e) : ∃ e, elements r first c = .error e := by
      have hb := hm b
      cases hf : f b with
      | none =>
        rw [hf] at hb
        exact elements_fails_first hb hitem hrest hc
      | some a =>
        rw [hf] at hb
        obtain ⟨c₁, c₂, hnext, hread, hc₂⟩ := read_element hb hitem hrest hc
        have hbs : bs.mapM f = none := by
          cases hbs : bs.mapM f with
          | none => rfl
          | some as => simp [hf, hbs] at hnone
        obtain ⟨e, he⟩ := hmore c₂ hc₂ hbs
        exact ⟨e, by rw [elements_cons hnext hread, he]; rfl⟩
    rcases series_items.cases h with
      ⟨hnil, -⟩ | ⟨w, hsingle, hitem⟩ | ⟨w, w', ws, cs₁, hmany, hitem, hs⟩
    · cases hnil
    · obtain ⟨rfl, hbs⟩ := List.cons.inj hsingle
      cases List.map_eq_nil_iff.1 hbs
      exact hone hitem endsItems_bracket.endsItem fun _ _ hbs => by cases hbs
    · obtain ⟨rfl, hbs⟩ := List.cons.inj hmany
      exact hone hitem endsItem_comma fun c₂ hc₂ hbs' => ih hbs' (hbs ▸ hs) hc₂.atNext

theorem forall₂_of_mapM {bs : List β} {as : List α} (h : bs.mapM f = some as) :
    List.Forall₂ (fun b a => f b = some a) bs as := by
  induction bs generalizing as with
  | nil =>
    cases h
    exact .nil
  | cons b bs ih =>
    simp only [List.mapM_cons, Option.bind_eq_bind, Option.bind_eq_some_iff, Option.pure_def,
      Option.some.injEq] at h
    obtain ⟨a, ha, as, has, rfl⟩ := h
    exact .cons ha (ih has)

/-- A list is read as the list of what its elements are read as, if all of them are. -/
theorem meets_listValue (hm : ∀ b, Meets r.read (val b) (f b)) (bs : List β) :
    Meets (listValue r) (.list (bs.map val)) (bs.mapM f) := by
  cases h : bs.mapM f with
  | some as =>
    refine understands_listValue (List.forall₂_map_left_iff.2 ?_)
    refine (forall₂_of_mapM h).imp fun b a hb => ?_
    have := hm b
    rwa [hb] at this
  | none =>
    intro cs back rest hspells _ _ c hc
    have hplain := hspells.startsPlain_value
    cases hspells with
    | list hitems =>
      have hinside := (hc.at_skipBlanks hplain).advance (by decide)
      obtain ⟨e, he⟩ := elements_fails hm h hitems hinside.atNext
      refine ⟨e, ?_⟩
      simp [listValue, valueStart_of_near (by decide) hplain hc, bind, Except.bind, he]

/-! ### Objects -/

/-- Behind the key, the reader fails at the value. -/
def Refuses (m : MemberReader σ) (t : σ) (key : String) (v : Value) : Prop :=
  ∀ cs rest, Spells (.item v) cs rest → EndsItem rest →
    ∀ c : Cursor, c.Near (':' :: cs) → ∃ e, m.read t key c = .error e

/-- The reader takes some members up, and fails at the next one. -/
inductive Blocks (m : MemberReader σ) : σ → List (List Nat × Value) → Prop
  | key {t : σ} {k : List Nat} {v : Value} {ms : List (List Nat × Value)}
      (h : textOf? k = none) : Blocks m t ((k, v) :: ms)
  | value {t : σ} {key : String} {v : Value} {ms : List (List Nat × Value)}
      (h : Refuses m t key v) : Blocks m t ((units key, v) :: ms)
  | later {t u : σ} {key : String} {v : Value} {ms : List (List Nat × Value)}
      (h : Takes m t key v u) (hs : Blocks m u ms) : Blocks m t ((units key, v) :: ms)

variable {m : MemberReader σ} {t u : σ} {ms : List (List Nat × Value)} {key : String} {k : List Nat}

theorem members_fails_key (hk : textOf? k = none) (h : Spells (.member (k, v)) cs rest)
    (hc : c.AtNext first cs) : ∃ e, members m first t c = .error e := by
  cases h with
  | member hfront hkey hcolon hv =>
    obtain ⟨c₁, hnext, hc₁⟩ := nextKey_of_atNext hc hfront
    obtain ⟨e, he⟩ := string_fails hkey hk (hc₁.advance (by decide))
    exact ⟨e, by rw [members_eq, hnext]; simp only [he]⟩

theorem members_fails_value (hf : Refuses m t key v) (h : Spells (.member (units key, v)) cs rest)
    (hrest : EndsItem rest) (hc : c.AtNext first cs) : ∃ e, members m first t c = .error e := by
  cases h with
  | member hfront hkey hcolon hv =>
    obtain ⟨c₁, hnext, hc₁⟩ := nextKey_of_atNext hc hfront
    obtain ⟨c₂, hstring, hc₂⟩ := string_of_body hkey (hc₁.advance (by decide))
    obtain ⟨e, he⟩ := hf _ _ hv hrest c₂ ⟨_, hc₂, hcolon⟩
    exact ⟨e, by rw [members_eq, hnext]; simp only [hstring, he]⟩

/-- Members fail with the first of them that does. -/
theorem members_of_blocks (hb : Blocks m t ms) (h : Spells (.members ms) cs ('\x7d' :: rest))
    (hc : c.AtNext first cs) : ∃ e, members m first t c = .error e := by
  -- whichever member it is, it is spelled at the front, and others may come behind it
  have hfront {k : List Nat} {v : Value} {ms : List (List Nat × Value)} {cs : List Char}
      (h : Spells (.members ((k, v) :: ms)) cs ('\x7d' :: rest)) :
      ∃ rest', EndsItem rest' ∧ Spells (.member (k, v)) cs rest' := by
    rcases series_members.cases h with
      ⟨hnil, -⟩ | ⟨w, hone, hmem⟩ | ⟨w, w', ws, cs₁, hmore, hmem, -⟩
    · cases hnil
    · cases hone
      exact ⟨_, endsItems_brace.endsItem, hmem⟩
    · cases hmore
      exact ⟨_, endsItem_comma, hmem⟩
  induction hb generalizing first cs c with
  | key hk =>
    obtain ⟨rest', -, hmem⟩ := hfront h
    exact members_fails_key hk hmem hc
  | value hf =>
    obtain ⟨rest', hrest, hmem⟩ := hfront h
    exact members_fails_value hf hmem hrest hc
  | later ht hs ih =>
    rcases series_members.cases h with
      ⟨hnil, -⟩ | ⟨w, hone, -⟩ | ⟨w, w', ws, cs₁, hmore, hmem, hms⟩
    · cases hnil
    · cases hone
      cases hs
    · cases hmore
      obtain ⟨c₁, c₂, c₃, hnext, hkey, hread, hc₃⟩ := read_member ht hmem endsItem_comma hc
      obtain ⟨e, he⟩ := ih hms hc₃.atNext
      exact ⟨e, by rw [members_cons hnext hkey hread, he]⟩

/-- A member is taken up, or it has no text for a key or is refused. -/
def Steps (m : MemberReader σ) (t : σ) (member : List Nat × Value) : Option σ → Prop
  | some u => ∃ key, member.1 = units key ∧ Takes m t key member.2 u
  | none => textOf? member.1 = none ∨ ∃ key, member.1 = units key ∧ Refuses m t key member.2

/-- All members are taken up, or one of them is not. -/
def Runs (m : MemberReader σ) (t : σ) (ms : List (List Nat × Value)) : Option σ → Prop
  | some u => Fills m t ms u
  | none => Blocks m t ms

/-- What each member does to the record decides what all of them do. -/
theorem runs_of_steps {member : β → List Nat × Value} {take : σ → β → Option σ}
    (h : ∀ t b, Steps m t (member b) (take t b)) (bs : List β) (t : σ) :
    Runs m t (bs.map member) (bs.foldlM take t) := by
  induction bs generalizing t with
  | nil => exact .nil t
  | cons b bs ih =>
    have hstep := h t b
    rw [List.map_cons, List.foldlM_cons]
    generalize member b = mem at hstep
    obtain ⟨k, v⟩ := mem
    cases htake : take t b with
    | none =>
      rw [htake] at hstep
      rcases hstep with hk | ⟨key, rfl, hrefuses⟩
      · exact .key hk
      · exact .value hrefuses
    | some u =>
      rw [htake] at hstep
      obtain ⟨key, rfl, htakes⟩ := hstep
      have hrest := ih u
      rw [Option.bind_eq_bind, Option.bind_some]
      cases hfold : bs.foldlM take u with
      | none =>
        rw [hfold] at hrest
        exact .later htakes hrest
      | some w =>
        rw [hfold] at hrest
        exact .cons htakes hrest

end BulkSuppress.Json
