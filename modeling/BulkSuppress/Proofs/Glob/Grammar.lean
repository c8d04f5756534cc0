import BulkSuppress.Discovery
import BulkSuppress.Proofs.Path.Components

/-
  The grammar of patterns, and what normalization does to it. `Spells` says which tokens a text
  stands for, without positions and errors: reading succeeds exactly on the texts of the grammar
  (`tokensFrom_eq_ok_iff`). Normalization takes idle pieces out of a text, together with the slash
  in front of them (`Thins`). Such a piece may lie inside brackets or beside `**`, so that the
  tokens are not the same ones afterwards; but a text is a pattern exactly if it is one with the
  pieces taken out (`exists_parse_normalizeSource_iff`).
-/

namespace BulkSuppress.Glob

/-! ## The grammar -/

/--
The tokens that a text stands for. `front` tells that nothing or a slash comes before the text,
as `**` asks for.
-/
inductive Spells : Bool → List Char → List Token → Prop
  | nil {front : Bool} : Spells front [] []
  | anyPath : Spells true ['*', '*'] [.anyPath]
  | anyPathSlash {rest : List Char} {ts : List Token} (h : Spells true rest ts) :
      Spells true ('*' :: '*' :: '/' :: rest) (.anyPath :: ts)
  | anySequence {front : Bool} {rest : List Char} {ts : List Token}
      (hone : rest.head? ≠ some '*') (h : Spells false rest ts) :
      Spells front ('*' :: rest) (.anySequence :: ts)
  | anyChar {front : Bool} {rest : List Char} {ts : List Token} (h : Spells false rest ts) :
      Spells front ('?' :: rest) (.anyChar :: ts)
  | bracket {front : Bool} {cs rest : List Char} {t : Token} {ts : List Token}
      (hset : bracket cs = some (t, rest)) (h : Spells false rest ts) :
      Spells front ('[' :: cs) (t :: ts)
  | literal {front : Bool} {c : Char} {rest : List Char} {ts : List Token}
      (hc : c ≠ '*' ∧ c ≠ '?' ∧ c ≠ '[') (h : Spells (c == '/') rest ts) :
      Spells front (c :: rest) (.literal c :: ts)

/-- Nothing or a slash comes before. -/
def isFront (before : Option Char) : Bool :=
  before == none || before == some '/'

theorem isFront_iff {before : Option Char} :
    isFront before = true ↔ before = none ∨ before = some '/' := by
  simp [isFront]

theorem map_cons_eq_ok {ε : Type} {x : Except ε (List Token)} {t : Token} {us : List Token} :
    x.map (t :: ·) = .ok us ↔ ∃ ts, x = .ok ts ∧ us = t :: ts := by
  cases x with
  | error e => simp [Except.map]
  | ok ts => simp [Except.map, eq_comm]

theorem spells_of_tokensFrom {before : Option Char} {pos : Nat} {cs : List Char}
    {ts : List Token} (h : tokensFrom before pos cs = .ok ts) : Spells (isFront before) cs ts := by
  induction before, pos, cs using tokensFrom.induct generalizing ts with
  | case1 before pos =>
    rw [tokensFrom] at h
    cases h
    exact .nil
  | case2 before pos tail =>
    rw [tokensFrom] at h
    cases h
  | case3 before pos hfront _ =>
    rw [tokensFrom, if_pos hfront] at h
    cases h
    rw [isFront_iff.2 hfront]
    exact .anyPath
  | case4 before pos hfront rest _ ih =>
    rw [tokensFrom, if_pos hfront, map_cons_eq_ok] at h
    obtain ⟨us, hus, rfl⟩ := h
    rw [isFront_iff.2 hfront]
    exact .anyPathSlash (ih hus)
  | case5 before pos rest h3 hfront hnil hslash =>
    rw [tokensFrom.eq_5 _ _ _ h3 hnil hslash, if_pos hfront] at h
    cases h
  | case6 before pos rest h3 hfront =>
    by_cases hnil : rest = []
    · rw [hnil, tokensFrom, if_neg hfront] at h
      cases h
    by_cases hslash : ∃ r, rest = '/' :: r
    · obtain ⟨r, rfl⟩ := hslash
      rw [tokensFrom, if_neg hfront] at h
      cases h
    · rw [tokensFrom.eq_5 _ _ _ h3 hnil fun r hr => hslash ⟨r, hr⟩, if_neg hfront] at h
      cases h
  | case7 before pos rest h3 h2 ih =>
    rw [tokensFrom.eq_6 _ _ _ h3 h2, map_cons_eq_ok] at h
    obtain ⟨us, hus, rfl⟩ := h
    refine .anySequence (fun hstar => ?_) (ih hus)
    obtain ⟨r, hr⟩ := List.head?_eq_some_iff.1 hstar
    exact h2 r hr
  | case8 before pos rest ih =>
    rw [tokensFrom, map_cons_eq_ok] at h
    obtain ⟨us, hus, rfl⟩ := h
    exact .anyChar (ih hus)
  | case9 before pos rest hset =>
    rw [tokensFrom] at h
    split at h
    · cases h
    · rename_i hset'
      rw [hset] at hset'
      cases hset'
  | case10 before pos rest t rest' hset _ ih =>
    rw [tokensFrom] at h
    split at h
    · cases h
    · rename_i hset'
      rw [hset] at hset'
      cases hset'
      rw [map_cons_eq_ok] at h
      obtain ⟨us, hus, rfl⟩ := h
      exact .bracket hset (ih hus)
  | case11 before pos c rest h3 h2 hstar hany hbracket ih =>
    rw [tokensFrom.eq_9 _ _ _ _ h3 h2 hstar hany hbracket, map_cons_eq_ok] at h
    obtain ⟨us, hus, rfl⟩ := h
    exact .literal ⟨hstar, hany, hbracket⟩ (by simpa [isFront] using ih hus)

theorem tokensFrom_of_spells {front : Bool} {cs : List Char} {ts : List Token}
    (h : Spells front cs ts) {before : Option Char} (hb : isFront before = front) (pos : Nat) :
    tokensFrom before pos cs = .ok ts := by
  induction h generalizing before pos with
  | nil => rw [tokensFrom]
  | anyPath => rw [tokensFrom, if_pos (isFront_iff.1 hb)]
  | anyPathSlash _ ih =>
    rw [tokensFrom, if_pos (isFront_iff.1 hb), map_cons_eq_ok]
    exact ⟨_, ih rfl _, rfl⟩
  | anySequence hone _ ih =>
    rw [tokensFrom.eq_6 _ _ _ (fun _ hr => hone (by rw [hr]; rfl))
      (fun _ hr => hone (by rw [hr]; rfl)), map_cons_eq_ok]
    exact ⟨_, ih rfl _, rfl⟩
  | anyChar _ ih =>
    rw [tokensFrom, map_cons_eq_ok]
    exact ⟨_, ih rfl _, rfl⟩
  | bracket hset _ ih =>
    rw [tokensFrom]
    split
    · rename_i hset'
      rw [hset] at hset'
      cases hset'
    · rename_i hset'
      rw [hset] at hset'
      cases hset'
      rw [map_cons_eq_ok]
      exact ⟨_, ih rfl _, rfl⟩
  | literal hc _ ih =>
    rw [tokensFrom.eq_9 _ _ _ _ (fun _ he => absurd he hc.1) (fun _ he => absurd he hc.1) hc.1
      hc.2.1 hc.2.2, map_cons_eq_ok]
    exact ⟨_, ih (by simp [isFront]) _, rfl⟩

/-- Reading goes by the grammar. -/
theorem tokensFrom_eq_ok_iff {before : Option Char} {pos : Nat} {cs : List Char}
    {ts : List Token} : tokensFrom before pos cs = .ok ts ↔ Spells (isFront before) cs ts :=
  ⟨spells_of_tokensFrom, fun h => tokensFrom_of_spells h rfl pos⟩

/-- A text stands for one list of tokens at most. -/
theorem Spells.unique {front : Bool} {cs : List Char} {ts us : List Token}
    (h : Spells front cs ts) (h' : Spells front cs us) : ts = us := by
  obtain ⟨before, hb⟩ : ∃ before, isFront before = front := by
    cases front with
    | true => exact ⟨none, rfl⟩
    | false => exact ⟨some '.', rfl⟩
  have hsame := tokensFrom_of_spells h hb 0
  rw [tokensFrom_of_spells h' hb 0] at hsame
  exact (Except.ok.inj hsame).symm

theorem parse_eq_ok_iff {source : String} {g : Glob} :
    parse source = .ok g ↔ g.source = source ∧ Spells true source.toList g.tokens := by
  have h : tokensFrom none 0 source.toList = .ok g.tokens ↔ Spells true source.toList g.tokens :=
    tokensFrom_eq_ok_iff
  rw [← h, parse]
  obtain ⟨src, ts⟩ := g
  cases tokensFrom none 0 source.toList with
  | error e => simp [Except.map]
  | ok us => simp [Except.map, eq_comm]

/-! ## Texts of the grammar -/

/-- The text stands for some tokens. -/
def IsText (front : Bool) (cs : List Char) : Prop := ∃ ts, Spells front cs ts

variable {front : Bool} {c : Char} {a b cs rest piece : List Char}

/-- Nothing, or a slash at the front. -/
def AtSlash (cs : List Char) : Prop := ∀ c ∈ cs.head?, c = '/'

theorem AtSlash.eq_nil_or (h : AtSlash cs) : cs = [] ∨ ∃ rest, cs = '/' :: rest := by
  cases cs with
  | nil => exact .inl rfl
  | cons c cs => exact .inr ⟨cs, by rw [h c rfl]⟩

theorem isText_nil : IsText front [] := ⟨[], .nil⟩

/-- A character without a meaning of its own stands for itself. -/
theorem spells_literal_iff {us : List Token} (hc : c ≠ '*' ∧ c ≠ '?' ∧ c ≠ '[') :
    Spells front (c :: rest) us ↔ ∃ ts, us = .literal c :: ts ∧ Spells (c == '/') rest ts := by
  constructor
  · intro h
    cases h with
    | literal _ h => exact ⟨_, rfl, h⟩
    | anyPath | anyPathSlash | anySequence => exact absurd rfl hc.1
    | anyChar => exact absurd rfl hc.2.1
    | bracket => exact absurd rfl hc.2.2
  · rintro ⟨ts, rfl, h⟩
    exact .literal hc h

theorem spells_anyChar_iff {us : List Token} :
    Spells front ('?' :: rest) us ↔ ∃ ts, us = .anyChar :: ts ∧ Spells false rest ts := by
  constructor
  · intro h
    cases h with
    | anyChar h => exact ⟨_, rfl, h⟩
    | literal hc _ => exact absurd rfl hc.2.1
  · rintro ⟨ts, rfl, h⟩
    exact .anyChar h

theorem spells_anySequence_iff {us : List Token} (hone : rest.head? ≠ some '*') :
    Spells front ('*' :: rest) us ↔ ∃ ts, us = .anySequence :: ts ∧ Spells false rest ts := by
  constructor
  · intro h
    cases h with
    | anySequence _ h => exact ⟨_, rfl, h⟩
    | anyPath | anyPathSlash => exact absurd rfl hone
    | literal hc _ => exact absurd rfl hc.1
  · rintro ⟨ts, rfl, h⟩
    exact .anySequence hone h

theorem spells_anyPath_iff {us : List Token} : Spells true ('*' :: '*' :: '/' :: rest) us ↔
    ∃ ts, us = .anyPath :: ts ∧ Spells true rest ts := by
  constructor
  · intro h
    cases h with
    | anyPathSlash h => exact ⟨_, rfl, h⟩
    | anySequence hone => exact absurd rfl hone
    | literal hc => exact absurd rfl hc.1
  · rintro ⟨ts, rfl, h⟩
    exact .anyPathSlash h

theorem spells_bracket_iff {us : List Token} : Spells front ('[' :: cs) us ↔
    ∃ t rest ts, us = t :: ts ∧ bracket cs = some (t, rest) ∧ Spells false rest ts := by
  constructor
  · intro h
    cases h with
    | bracket hset h => exact ⟨_, _, _, rfl, hset, h⟩
    | literal hc _ => exact absurd rfl hc.2.2
  · rintro ⟨t, rest, ts, rfl, hset, h⟩
    exact .bracket hset h

/-- A text that stands for one token and what a rest stands for is read if the rest is. -/
theorem isText_iff_of_spells {front' : Bool} {t : Token}
    (h : ∀ {us}, Spells front cs us ↔ ∃ ts, us = t :: ts ∧ Spells front' rest ts) :
    IsText front cs ↔ IsText front' rest := by
  constructor
  · rintro ⟨us, hus⟩
    obtain ⟨ts, -, hts⟩ := h.1 hus
    exact ⟨ts, hts⟩
  · rintro ⟨ts, hts⟩
    exact ⟨_, h.2 ⟨ts, rfl, hts⟩⟩

theorem isText_literal (hc : c ≠ '*' ∧ c ≠ '?' ∧ c ≠ '[') :
    IsText front (c :: rest) ↔ IsText (c == '/') rest :=
  isText_iff_of_spells (spells_literal_iff hc)

theorem isText_slash : IsText front ('/' :: rest) ↔ IsText true rest :=
  isText_literal (by decide)

theorem isText_anyChar : IsText front ('?' :: rest) ↔ IsText false rest :=
  isText_iff_of_spells spells_anyChar_iff

theorem isText_anySequence (hone : rest.head? ≠ some '*') :
    IsText front ('*' :: rest) ↔ IsText false rest :=
  isText_iff_of_spells (spells_anySequence_iff hone)

/-- Two stars stand at the front of a text or behind a slash, and before a slash or nothing. -/
theorem isText_anyPath :
    IsText front ('*' :: '*' :: rest) ↔ front = true ∧ AtSlash rest ∧ IsText front rest := by
  constructor
  · rintro ⟨ts, h⟩
    cases h with
    | anyPath => exact ⟨rfl, nofun, isText_nil⟩
    | anyPathSlash h => exact ⟨rfl, by simp [AtSlash], isText_slash.2 ⟨_, h⟩⟩
    | anySequence hone => exact absurd rfl hone
    | literal hc _ => exact absurd rfl hc.1
  · rintro ⟨rfl, hrest, htext⟩
    rcases hrest.eq_nil_or with rfl | ⟨rest, rfl⟩
    · exact ⟨_, .anyPath⟩
    · obtain ⟨ts, h⟩ := isText_slash.1 htext
      exact ⟨_, .anyPathSlash h⟩

theorem isText_bracket :
    IsText front ('[' :: cs) ↔ ∃ r, bracket cs = some r ∧ IsText false r.2 := by
  constructor
  · rintro ⟨us, h⟩
    obtain ⟨t, rest, ts, -, hset, h⟩ := spells_bracket_iff.1 h
    exact ⟨(t, rest), hset, ts, h⟩
  · rintro ⟨r, hset, ts, h⟩
    exact ⟨_, .bracket hset h⟩

/-- What comes before a text that starts with a slash makes no difference. -/
theorem AtSlash.isText_iff (h : AtSlash cs) (front' : Bool) :
    IsText front cs ↔ IsText front' cs := by
  rcases h.eq_nil_or with rfl | ⟨rest, rfl⟩
  · exact iff_of_true isText_nil isText_nil
  · rw [isText_slash, isText_slash]

/-! ## Taking idle pieces out -/

/--
The second text is the first one without some idle pieces, each taken out together with the slash
in front of it.
-/
inductive Thins : List Char → List Char → Prop
  | nil : Thins [] []
  | keep {a b : List Char} (c : Char) (h : Thins a b) : Thins (c :: a) (c :: b)
  | drop {a b piece : List Char} (hidle : Path.isIdle piece = true) (hend : AtSlash a)
      (h : Thins a b) : Thins ('/' :: (piece ++ a)) b

theorem Thins.append_left (h : Thins a b) (cs : List Char) : Thins (cs ++ a) (cs ++ b) := by
  induction cs with
  | nil => exact h
  | cons c cs ih => exact .keep c ih

/-- What starts with a slash still does, or nothing is left. -/
theorem Thins.atSlash (h : Thins a b) (ha : AtSlash a) : AtSlash b := by
  induction h with
  | nil => exact ha
  | keep c _ _ => exact fun d hd => ha d hd
  | drop _ hend _ ih => exact ih hend

/-- A character that is no slash comes first in both texts or in none. -/
theorem Thins.head?_eq_iff (h : Thins a b) (hc : c ≠ '/') :
    a.head? = some c ↔ b.head? = some c := by
  cases h with
  | nil => exact Iff.rfl
  | keep d _ => exact Iff.rfl
  | drop _ hend h =>
    refine iff_of_false ?_ fun hb => hc (h.atSlash hend c hb)
    rw [List.head?_cons, Option.some.injEq]
    exact Ne.symm hc

theorem Thins.atSlash_iff (h : Thins a b) : AtSlash a ↔ AtSlash b := by
  refine ⟨h.atSlash, fun hb c hc => Decidable.byContradiction fun hne => ?_⟩
  exact hne (hb c ((h.head?_eq_iff hne).1 hc))

/-- An idle piece in front of a slash is no obstacle to reading. -/
theorem isText_idle_append (hidle : Path.isIdle piece = true) (ha : AtSlash a) :
    IsText true (piece ++ a) ↔ IsText front a := by
  rcases Path.isIdle_iff.1 hidle with rfl | rfl
  · exact ha.isText_iff front
  · rw [List.singleton_append, isText_literal (by decide)]
    exact ha.isText_iff front

/-! ### Brackets -/

/-- What stands between brackets, and what follows them; a closing bracket may stand first. -/
def setText : List Char → Option (List Char × List Char)
  | [] => none
  | first :: cs => (untilBracket cs).map fun r => (first :: r.1, r.2)

/-- The text without the mark of an inverted set. -/
def dropMark : List Char → List Char
  | '!' :: cs => cs
  | cs => cs

/-- The set that a text between brackets stands for, with a mark in front of it or not. -/
def setToken (inverted : Bool) (cs : List Char) : Token :=
  if inverted then .noneOf (rangesOf cs) else .oneOf (rangesOf cs)

/-- The token, and what it becomes if idle pieces are taken out of the text it is read from. -/
inductive Becomes : Token → Token → Prop
  | same (t : Token) : Becomes t t
  | set (inverted : Bool) {x y : List Char} (h : Thins x y) :
      Becomes (setToken inverted x) (setToken inverted y)

theorem dropMark_of_head? (h : cs.head? ≠ some '!') : dropMark cs = cs := by
  rw [dropMark]
  rintro rest rfl
  exact h rfl

theorem bracket_eq (cs : List Char) : bracket cs =
    (setText (dropMark cs)).map fun r => (setToken (cs.head? == some '!') r.1, r.2) := by
  unfold bracket
  split
  · rw [dropMark, setText, Option.map_map]
    rfl
  · rfl
  · rename_i first cs hmark hend
    have hne : first ≠ '!' := by
      rintro rfl
      cases cs with
      | nil => exact hend rfl rfl
      | cons d cs => exact hmark d cs rfl rfl
    rw [dropMark_of_head? (by simpa using hne), setText, Option.map_map]
    simp [setToken, hne, Function.comp_def]
  · rfl

theorem untilBracket_cons (hc : c ≠ ']') :
    untilBracket (c :: cs) = (untilBracket cs).map fun r => (c :: r.1, r.2) := by
  rw [untilBracket]
  exact hc

theorem untilBracket_append (h : ']' ∉ piece) (a : List Char) :
    untilBracket (piece ++ a) = (untilBracket a).map fun r => (piece ++ r.1, r.2) := by
  induction piece with
  | nil => simp
  | cons c piece ih =>
    rw [List.mem_cons, not_or] at h
    rw [List.cons_append, untilBracket_cons (Ne.symm h.1), ih h.2, Option.map_map]
    rfl

theorem AtSlash.setText_eq (h : AtSlash cs) : setText cs = untilBracket cs := by
  rcases h.eq_nil_or with rfl | ⟨rest, rfl⟩
  · rfl
  · rw [setText, untilBracket_cons (by decide)]

/-- The two texts are thinned, each by itself. -/
def ThinsBoth (p q : List Char × List Char) : Prop := Thins p.1 q.1 ∧ Thins p.2 q.2

theorem rel_map {α β : Type} {R : α → α → Prop} {S : β → β → Prop} {x? y? : Option α} {f g : α → β}
    (h : Option.Rel R x? y?) (hfg : ∀ x y, x? = some x → R x y → S (f x) (g y)) :
    Option.Rel S (x?.map f) (y?.map g) := by
  cases h with
  | none => exact .none
  | some hxy => exact .some (hfg _ _ rfl hxy)

/-- What stands before a closing bracket is thinned, and what follows it. -/
theorem Thins.rel_untilBracket (h : Thins a b) :
    Option.Rel ThinsBoth (untilBracket a) (untilBracket b) := by
  induction h with
  | nil => exact .none
  | keep c h ih =>
    by_cases hc : c = ']'
    · subst hc
      exact .some ⟨.nil, h⟩
    · rw [untilBracket_cons hc, untilBracket_cons hc]
      exact rel_map ih fun _ _ _ h => ⟨h.1.keep c, h.2⟩
  | @drop a b piece hidle hend _ ih =>
    have hpiece : ']' ∉ '/' :: piece := by
      rcases Path.isIdle_iff.1 hidle with rfl | rfl <;> decide
    have hsame : untilBracket b = (untilBracket b).map id := (congrFun Option.map_id _).symm
    rw [← List.cons_append, untilBracket_append hpiece, hsame]
    refine rel_map ih fun r _ hr h => ⟨.drop hidle ?_ h.1, h.2⟩
    -- the slash that ends the piece is not behind the bracket
    rcases hend.eq_nil_or with rfl | ⟨a, rfl⟩
    · cases hr
    · rw [untilBracket_cons (by decide)] at hr
      obtain ⟨r, -, rfl⟩ := Option.map_eq_some_iff.1 hr
      simp [AtSlash]

theorem Thins.rel_setText (h : Thins a b) : Option.Rel ThinsBoth (setText a) (setText b) := by
  cases h with
  | nil => exact .none
  | keep c h => exact rel_map h.rel_untilBracket fun _ _ _ h => ⟨h.1.keep c, h.2⟩
  | drop hidle hend h =>
    -- the slash in front is the first character of the set
    rw [(h.atSlash hend).setText_eq, AtSlash.setText_eq (by simp [AtSlash])]
    exact (Thins.drop hidle hend h).rel_untilBracket

theorem Thins.thins_dropMark (h : Thins a b) : Thins (dropMark a) (dropMark b) := by
  by_cases ha : a.head? = some '!'
  · cases h with
    | nil => cases ha
    | keep c h =>
      cases ha
      exact h
    | drop => cases ha
  · rw [dropMark_of_head? ha, dropMark_of_head? fun hb => ha ((h.head?_eq_iff (by decide)).2 hb)]
    exact h

/-- Brackets that close still do; their set is thinned, and what follows them. -/
theorem Thins.rel_bracket (h : Thins a b) :
    Option.Rel (fun p q => Becomes p.1 q.1 ∧ Thins p.2 q.2) (bracket a) (bracket b) := by
  have hmark : (a.head? == some '!') = (b.head? == some '!') := by
    rw [Bool.eq_iff_iff, beq_iff_eq, beq_iff_eq]
    exact h.head?_eq_iff (by decide)
  rw [bracket_eq, bracket_eq, hmark]
  exact rel_map h.thins_dropMark.rel_setText fun _ _ _ h => ⟨.set _ h.1, h.2⟩

/-! ### Reading -/

theorem exists_iff_of_rel {α : Type} {R : α → α → Prop} {p : α → Prop} {x? y? : Option α}
    (h : Option.Rel R x? y?) (hp : ∀ x y, x? = some x → R x y → (p x ↔ p y)) :
    (∃ x, x? = some x ∧ p x) ↔ ∃ y, y? = some y ∧ p y := by
  cases h with
  | none => exact Iff.rfl
  | some hxy => simpa using hp _ _ rfl hxy

/-- A text is a pattern exactly if it is one with the idle pieces taken out. -/
theorem Thins.isText_iff (h : Thins a b) : IsText front a ↔ IsText front b := by
  -- by the length of the text: each rule of the grammar leaves a shorter one
  induction hlen : a.length using Nat.strongRecOn generalizing a b front with
  | ind n ih =>
    subst hlen
    cases h with
    | nil => exact Iff.rfl
    | drop hidle hend h =>
      rename_i a piece
      have hrest : IsText front a ↔ IsText front b :=
        ih _ (by rw [List.length_cons, List.length_append]; omega) h rfl
      exact isText_slash.trans ((isText_idle_append hidle hend).trans hrest)
    | keep c h =>
      rename_i a b
      have shorter {front : Bool} {x y : List Char} (hx : x.length ≤ a.length)
          (hxy : Thins x y) : IsText front x ↔ IsText front y :=
        ih _ (by simp only [List.length_cons]; omega) hxy rfl
      by_cases hstar : c = '*'
      · subst hstar
        by_cases htwo : a.head? = some '*'
        · cases h with
          | nil => cases htwo
          | drop => cases htwo
          | keep _ h =>
            cases htwo
            rw [isText_anyPath, isText_anyPath, h.atSlash_iff, shorter (by simp) h]
        · rw [isText_anySequence htwo, isText_anySequence fun hb =>
            htwo ((h.head?_eq_iff (by decide)).2 hb)]
          exact shorter (Nat.le_refl _) h
      by_cases hany : c = '?'
      · subst hany
        rw [isText_anyChar, isText_anyChar]
        exact shorter (Nat.le_refl _) h
      by_cases hset : c = '['
      · subst hset
        rw [isText_bracket, isText_bracket]
        refine exists_iff_of_rel h.rel_bracket fun x y hx hxy => shorter ?_ hxy.2
        exact Nat.le_of_lt (bracket_length hx)
      · rw [isText_literal ⟨hstar, hany, hset⟩, isText_literal ⟨hstar, hany, hset⟩]
        exact shorter (Nat.le_refl _) h

/-! ## Normalization -/

/-- The text of the pieces, with a slash in front of each. -/
def behindSlashes (pieces : List (List Char)) : List Char := pieces.flatMap ('/' :: ·)

theorem atSlash_behindSlashes (pieces : List (List Char)) : AtSlash (behindSlashes pieces) := by
  cases pieces with
  | nil => nofun
  | cons piece pieces => simp [AtSlash, behindSlashes]

theorem intercalate_cons (piece : List Char) (pieces : List (List Char)) :
    ['/'].intercalate (piece :: pieces) = piece ++ behindSlashes pieces := by
  induction pieces generalizing piece with
  | nil => simp [behindSlashes]
  | cons next pieces ih =>
    rw [List.intercalate_cons_cons, ih]
    simp [behindSlashes]

/-- The pieces that stand for components. -/
def solid (pieces : List (List Char)) : List (List Char) := pieces.filter (!Path.isIdle ·)

theorem thins_behindSlashes (pieces : List (List Char)) :
    Thins (behindSlashes pieces) (behindSlashes (solid pieces)) := by
  induction pieces with
  | nil => exact .nil
  | cons piece pieces ih =>
    cases hidle : Path.isIdle piece with
    | true =>
      rw [solid, List.filter_cons_of_neg (by simp [hidle])]
      exact .drop hidle (atSlash_behindSlashes pieces) ih
    | false =>
      rw [solid, List.filter_cons_of_pos (by simp [hidle])]
      exact (ih.append_left piece).keep '/'

theorem keepsPiece_of_ne_zero {index : Nat} (h : index ≠ 0) (piece : List Char) :
    keepsPiece index piece = !Path.isIdle piece := by
  rw [Bool.eq_iff_iff, Bool.not_eq_true', ← Bool.not_eq_true, Path.isIdle_iff, keepsPiece]
  cases piece with
  | nil => simp [h]
  | cons c piece => simp

theorem keepsPiece_zero (piece : List Char) : keepsPiece 0 piece = (piece != ['.']) := by
  simp [keepsPiece]

/-- Behind the first piece, the solid ones are kept. -/
theorem map_filter_keepsPiece {index : Nat} (h : index ≠ 0) (pieces : List (List Char)) :
    ((pieces.zipIdx index).filter fun p => keepsPiece p.2 p.1).map (·.1) = solid pieces := by
  induction pieces generalizing index with
  | nil => rfl
  | cons piece pieces ih =>
    have htail := ih (Nat.succ_ne_zero index)
    rw [List.zipIdx_cons, solid]
    cases hidle : Path.isIdle piece with
    | true =>
      rw [List.filter_cons_of_neg (by simp [keepsPiece_of_ne_zero h, hidle]),
        List.filter_cons_of_neg (by simp [hidle])]
      exact htail
    | false =>
      rw [List.filter_cons_of_pos (by simp [keepsPiece_of_ne_zero h, hidle]),
        List.filter_cons_of_pos (by simp [hidle]), List.map_cons, htail, solid]

/-- A normalized pattern has the first piece, unless that is a dot, and the solid ones. -/
theorem toList_normalizeSource {pattern : String} {piece : List Char}
    {pieces : List (List Char)} (h : Text.pieces '/' pattern.toList = piece :: pieces) :
    (normalizeSource pattern).toList =
      if piece = ['.'] then ['/'].intercalate (solid pieces)
      else piece ++ behindSlashes (solid pieces) := by
  have htail := map_filter_keepsPiece (Nat.succ_ne_zero 0) pieces
  rw [normalizeSource, Path.unpieces, String.toList_ofList, h, List.zipIdx_cons]
  split
  · rename_i hdot
    rw [List.filter_cons_of_neg (by simp [keepsPiece_zero, hdot]), htail]
  · rename_i hdot
    rw [List.filter_cons_of_pos (by simp [keepsPiece_zero, hdot]), List.map_cons, htail,
      intercalate_cons]

/-- At the front of a pattern, a slash is no obstacle to reading. -/
theorem isText_intercalate (pieces : List (List Char)) :
    IsText true (['/'].intercalate pieces) ↔ IsText true (behindSlashes pieces) := by
  cases pieces with
  | nil => exact Iff.rfl
  | cons piece pieces =>
    rw [intercalate_cons]
    exact isText_slash.symm

theorem isText_normalizeSource (pattern : String) :
    IsText true (normalizeSource pattern).toList ↔ IsText true pattern.toList := by
  obtain ⟨piece, pieces, h⟩ := List.exists_cons_of_ne_nil (Text.pieces_ne_nil '/' pattern.toList)
  have htext : pattern.toList = piece ++ behindSlashes pieces := by
    rw [← intercalate_cons, ← h, Text.intercalate_pieces]
  have hthins := thins_behindSlashes pieces
  rw [toList_normalizeSource h, htext]
  split
  · rename_i hdot
    have hidle : Path.isIdle piece = true := Path.isIdle_iff.2 (.inr hdot)
    rw [isText_intercalate, ← hthins.isText_iff,
      isText_idle_append hidle (atSlash_behindSlashes pieces)]
  · exact ((hthins.append_left piece).isText_iff).symm

theorem exists_parse_iff {source : String} :
    (∃ g, parse source = .ok g) ↔ IsText true source.toList := by
  constructor
  · rintro ⟨g, h⟩
    exact ⟨g.tokens, (parse_eq_ok_iff.1 h).2⟩
  · rintro ⟨ts, h⟩
    exact ⟨⟨source, ts⟩, parse_eq_ok_iff.2 ⟨rfl, h⟩⟩

/-- Normalization neither makes nor breaks a pattern. -/
theorem exists_parse_normalizeSource_iff (pattern : String) :
    (∃ g, parse (normalizeSource pattern) = .ok g) ↔ ∃ g, parse pattern = .ok g := by
  rw [exists_parse_iff, exists_parse_iff, isText_normalizeSource]

end BulkSuppress.Glob
