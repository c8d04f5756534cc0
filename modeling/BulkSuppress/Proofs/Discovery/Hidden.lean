import BulkSuppress.Proofs.Discovery.Canonical
import BulkSuppress.Proofs.Glob.Grammar

/-
  Hidden files, whose names start with a dot. Where dots are strict, no wildcard stands for such a
  dot, so that a hidden name is matched by a part of the pattern that has the dot itself. The part
  may start with it, but it may also have a `*` in front, which then stands for nothing: `*.js`
  matches the name `.js` (`exists_part_of_hidden`). So a pattern none of whose parts starts with a
  dot can still select hidden files, and it does so through a part `*.…` only
  (`hidden_behind_star`). Parts are those of the pattern as it is read, where a slash inside
  brackets does not count; `exists_piece_of_part` finds them in its text.
-/

namespace BulkSuppress

namespace Glob

variable {front start strictDots : Bool} {c : Char} {t : Token} {ts us vs part : List Token}
variable {cs pre n rest : List Char} {next : Bool → List Char → Bool}

/-! ## Tokens and the parts of a pattern -/

/-- A part of the pattern ends here: with a slash or with the components that `**` takes. -/
def Token.endsPart (t : Token) : Bool := t == .literal '/' || t == .anyPath

/-- `**` comes first in a part, and no two stars follow each other. -/
def wellPlaced : Bool → List Token → Bool
  | _, [] => true
  | front, .anyPath :: ts => front && wellPlaced true ts
  | _, .anySequence :: ts => ts.head? != some .anySequence && wellPlaced false ts
  | _, t :: ts => wellPlaced t.endsPart ts

/-- What stands between the slashes of a pattern, `**` apart. -/
def HasPart (ts part : List Token) : Prop :=
  ∃ us vs, ts = us ++ part ++ vs ∧ (∀ t ∈ us.getLast?, t.endsPart = true) ∧
    (∀ t ∈ vs.head?, t = .literal '/') ∧ ∀ t ∈ part, t.endsPart = false

theorem Token.endsPart_iff : t.endsPart = true ↔ t = .literal '/' ∨ t = .anyPath := by
  simp [Token.endsPart]

theorem Token.endsPart_literal (c : Char) : (Token.literal c).endsPart = (c == '/') := by
  rw [Bool.eq_iff_iff, Token.endsPart_iff]
  simp

theorem wellPlaced_of_not_wild (h : t.isWild = false) :
    wellPlaced front (t :: ts) = wellPlaced t.endsPart ts := by
  cases t with
  | anySequence | anyPath => cases h
  | _ => rfl

theorem wellPlaced_tail (h : wellPlaced front (t :: ts) = true) :
    wellPlaced t.endsPart ts = true := by
  cases t with
  | anySequence | anyPath => exact (Bool.and_eq_true_iff.1 h).2
  | _ => exact h

theorem front_of_wellPlaced (h : wellPlaced front (.anyPath :: ts) = true) : front = true :=
  (Bool.and_eq_true_iff.1 h).1

theorem eq_of_untilBracket {body : List Char} (h : untilBracket cs = some (body, rest)) :
    cs = body ++ ']' :: rest := by
  induction cs generalizing body with
  | nil => cases h
  | cons c cs ih =>
    by_cases hc : c = ']'
    · subst hc
      cases h
      rfl
    · rw [untilBracket.eq_3 _ _ hc] at h
      obtain ⟨r, hr, hcons⟩ := Option.map_eq_some_iff.1 h
      cases hcons
      rw [ih hr]
      rfl

/-- Brackets stand for a set. -/
theorem exists_set_of_bracket (h : bracket cs = some (t, rest)) :
    (∃ set, t = .oneOf set ∨ t = .noneOf set) ∧ rest <:+ cs := by
  have hsuffix {body : List Char} {first : Char} {cs rest : List Char}
      (h : untilBracket cs = some (body, rest)) : rest <:+ first :: cs :=
    ⟨first :: (body ++ [']']), by simp [eq_of_untilBracket h]⟩
  unfold bracket at h
  split at h
  · obtain ⟨r, hr, hset⟩ := Option.map_eq_some_iff.1 h
    cases hset
    exact ⟨⟨_, .inr rfl⟩, (hsuffix hr).trans (List.suffix_cons ..)⟩
  · cases h
  · obtain ⟨r, hr, hset⟩ := Option.map_eq_some_iff.1 h
    cases hset
    exact ⟨⟨_, .inl rfl⟩, hsuffix hr⟩
  · cases h

theorem of_spells_literal (h : Spells front cs (.literal c :: ts)) :
    ∃ rest, cs = c :: rest ∧ Spells (c == '/') rest ts := by
  cases h with
  | literal _ h => exact ⟨_, rfl, h⟩
  | bracket hset _ =>
    obtain ⟨⟨set, hset | hset⟩, -⟩ := exists_set_of_bracket hset <;> cases hset

theorem of_spells_anySequence (h : Spells front cs (.anySequence :: ts)) :
    ∃ rest, cs = '*' :: rest ∧ Spells false rest ts := by
  cases h with
  | anySequence _ h => exact ⟨_, rfl, h⟩
  | bracket hset _ =>
    obtain ⟨⟨set, hset | hset⟩, -⟩ := exists_set_of_bracket hset <;> cases hset

theorem wellPlaced_of_spells (h : Spells front cs ts) : wellPlaced front ts = true := by
  induction h with
  | nil => rfl
  | anyPath => rfl
  | anyPathSlash _ ih => exact ih
  | anySequence hone h ih =>
    rw [wellPlaced, Bool.and_eq_true, bne_iff_ne]
    refine ⟨fun ht => ?_, ih⟩
    obtain ⟨us, rfl⟩ := List.head?_eq_some_iff.1 ht
    obtain ⟨rest, rfl, -⟩ := of_spells_anySequence h
    exact hone rfl
  | anyChar _ ih => exact ih
  | bracket hset _ ih =>
    obtain ⟨⟨set, rfl | rfl⟩, -⟩ := exists_set_of_bracket hset <;> exact ih
  | literal _ _ ih =>
    rw [wellPlaced_of_not_wild rfl, Token.endsPart_literal]
    exact ih

theorem wellPlaced_behind (h : wellPlaced front (us ++ t :: ts) = true) :
    wellPlaced t.endsPart ts = true := by
  induction us generalizing front with
  | nil => exact wellPlaced_tail h
  | cons u us ih => exact ih (wellPlaced_tail h)

/-- Behind the end of a part, a part starts. -/
theorem wellPlaced_of_append (h : wellPlaced true (us ++ vs) = true)
    (hend : ∀ t ∈ us.getLast?, t.endsPart = true) : wellPlaced true vs = true := by
  rcases List.eq_nil_or_concat us with rfl | ⟨us, t, rfl⟩
  · exact h
  · rw [List.concat_append] at h
    exact hend t (by simp) ▸ wellPlaced_behind h

/-- In front of `**`, a part has ended. -/
theorem endsPart_of_anyPath (h : wellPlaced front (us ++ .anyPath :: vs) = true) :
    ∀ t ∈ us.getLast?, t.endsPart = true := by
  rcases List.eq_nil_or_concat us with rfl | ⟨us, t, rfl⟩
  · nofun
  · rw [List.concat_append] at h
    simpa using front_of_wellPlaced (wellPlaced_behind h)

/-- What ends the part that a text starts in is a slash. -/
theorem head?_dropWhile (h : wellPlaced false ts = true) :
    ∀ t ∈ (ts.dropWhile (!Token.endsPart ·)).head?, t = .literal '/' := by
  induction ts with
  | nil => nofun
  | cons t ts ih =>
    cases hend : t.endsPart with
    | false =>
      rw [List.dropWhile_cons_of_pos (by simp [hend])]
      exact ih (hend ▸ wellPlaced_tail h)
    | true =>
      rw [List.dropWhile_cons_of_neg (by simp [hend])]
      intro u hu
      cases hu
      rcases Token.endsPart_iff.1 hend with rfl | rfl
      · rfl
      · exact absurd (front_of_wellPlaced h) Bool.false_ne_true

/-! ## Matching goes by parts -/

theorem matchFrom_single (h : t.isWild = false) :
    matchFrom strictDots (t :: ts) start (c :: cs)
      = (t.accepts strictDots start c && matchFrom strictDots ts (c == '/') cs) := by
  cases t with
  | anySequence | anyPath => cases h
  | _ => rfl

theorem matchFrom_single_nil (h : t.isWild = false) :
    matchFrom strictDots (t :: ts) start [] = false := by
  cases t with
  | anySequence | anyPath => cases h
  | _ => rfl

/-- Only a slash stands for a slash. -/
theorem eq_of_accepts_slash (h : t.accepts strictDots start '/' = true) : t = .literal '/' := by
  cases t with
  | literal d => rw [← beq_iff_eq.1 h]
  | anySequence | anyPath => cases h
  | _ => simp [Token.accepts] at h

theorem eq_slash_of_accepts (h : t.accepts strictDots start c = true)
    (hend : t.endsPart = true) : c = '/' := by
  rcases Token.endsPart_iff.1 hend with rfl | rfl
  · exact beq_iff_eq.1 h
  · cases h

/-- Where dots are strict, only a dot stands for a dot that starts a name. -/
theorem eq_of_accepts_dot (h : t.accepts true true '.' = true) : t = .literal '.' := by
  cases t with
  | literal d => rw [← beq_iff_eq.1 h]
  | anySequence | anyPath => cases h
  | _ => simp [Token.accepts, isGuardedDot] at h

/-- A `*` ends in front of any slash. -/
theorem afterName_slash (h : afterName strictDots next start (pre ++ '/' :: cs) = true) :
    ∃ start pre, next start (pre ++ '/' :: cs) = true := by
  induction pre generalizing start with
  | nil => exact ⟨start, [], by simpa [afterName] using h⟩
  | cons d pre ih =>
    simp only [List.cons_append, afterName, Bool.or_eq_true, Bool.and_eq_true] at h
    rcases h with h | ⟨-, h⟩
    · exact ⟨start, d :: pre, h⟩
    · exact ih h

/-- A `**` ends in front of any slash or takes the slash as well. -/
theorem afterPath_slash (h : afterPath strictDots next start (pre ++ '/' :: cs) = true) :
    (∃ start pre, next start (pre ++ '/' :: cs) = true) ∨
      afterPath strictDots next true cs = true := by
  induction pre generalizing start with
  | nil =>
    simp only [List.nil_append, afterPath, Bool.or_eq_true, Bool.and_eq_true] at h
    rcases h with ⟨-, h⟩ | ⟨-, h⟩
    · exact .inl ⟨start, [], h⟩
    · exact .inr h
  | cons d pre ih =>
    simp only [List.cons_append, afterPath, Bool.or_eq_true, Bool.and_eq_true] at h
    rcases h with ⟨-, h⟩ | ⟨-, h⟩
    · exact .inl ⟨start, d :: pre, h⟩
    · exact ih h

/-- A slash of the text is passed where a part ends, or inside the components of a `**`. -/
theorem exists_boundary (h : matchFrom strictDots ts start (pre ++ '/' :: cs) = true) :
    ∃ us vs, ts = us ++ vs ∧ matchFrom strictDots vs true cs = true ∧
      (us.getLast? = some (.literal '/') ∨ vs.head? = some .anyPath) := by
  have hcons {t : Token} {ts : List Token} (h : ∃ us vs, ts = us ++ vs ∧
      matchFrom strictDots vs true cs = true ∧
      (us.getLast? = some (.literal '/') ∨ vs.head? = some .anyPath)) :
      ∃ us vs, t :: ts = us ++ vs ∧ matchFrom strictDots vs true cs = true ∧
        (us.getLast? = some (.literal '/') ∨ vs.head? = some .anyPath) := by
    obtain ⟨us, vs, rfl, hvs, hend⟩ := h
    exact ⟨t :: us, vs, rfl, hvs, hend.imp_left fun hu => by simp [List.getLast?_cons, hu]⟩
  induction ts generalizing pre start with
  | nil => simp [matchFrom] at h
  | cons t ts ih =>
    cases hwild : t.isWild with
    | true =>
      cases t with
      | anySequence =>
        obtain ⟨start, pre, h⟩ := afterName_slash h
        exact hcons (ih h)
      | anyPath =>
        rcases afterPath_slash h with ⟨start, pre, h⟩ | h
        · exact hcons (ih h)
        · exact ⟨[], .anyPath :: ts, rfl, h, .inr rfl⟩
      | _ => cases hwild
    | false =>
      cases pre with
      | nil =>
        rw [List.nil_append, matchFrom_single hwild, Bool.and_eq_true] at h
        cases eq_of_accepts_slash h.1
        exact ⟨[.literal '/'], ts, rfl, h.2, .inl rfl⟩
      | cons d pre =>
        rw [List.cons_append, matchFrom_single hwild, Bool.and_eq_true] at h
        exact hcons (ih h.2)

/-- Of a pattern for a hidden name, only `**` and one `*` can come before the dot. -/
theorem exists_dot (hw : wellPlaced true ts = true)
    (h : matchFrom true ts true ('.' :: cs) = true) :
    ∃ us stars vs, ts = us ++ stars ++ .literal '.' :: vs ∧ (∀ t ∈ us, t = .anyPath) ∧
      (stars = [] ∨ stars = [.anySequence]) ∧ matchFrom true vs false cs = true := by
  induction ts with
  | nil => cases h
  | cons t ts ih =>
    cases hwild : t.isWild with
    | true =>
      cases t with
      | anySequence =>
        have hts : matchFrom true ts true ('.' :: cs) = true := by
          simpa [matchFrom, afterName, isGuardedDot] using h
        cases ts with
        | nil => cases hts
        | cons u ts =>
          have huw : u.isWild = false := by
            cases u with
            | anySequence => cases hw
            | anyPath => cases hw
            | _ => rfl
          rw [matchFrom_single huw, Bool.and_eq_true] at hts
          cases eq_of_accepts_dot hts.1
          exact ⟨[], [.anySequence], ts, rfl, List.forall_mem_nil _, .inr rfl, hts.2⟩
      | anyPath =>
        have hts : matchFrom true ts true ('.' :: cs) = true := by
          simpa [matchFrom, afterPath, isGuardedDot] using h
        obtain ⟨us, stars, vs, rfl, hus, hstars, hvs⟩ := ih (wellPlaced_tail hw) hts
        exact ⟨.anyPath :: us, stars, vs, rfl, List.forall_mem_cons.2 ⟨rfl, hus⟩, hstars, hvs⟩
      | _ => cases hwild
    | false =>
      rw [matchFrom_single hwild, Bool.and_eq_true] at h
      cases eq_of_accepts_dot h.1
      exact ⟨[], [], ts, rfl, List.forall_mem_nil _, .inl rfl, h.2⟩

/-- A `*` that takes a text up to a slash takes the same of the name alone. -/
theorem afterName_name {next' : Bool → List Char → Bool} (hn : '/' ∉ n) (hrest : AtSlash rest)
    (hnext : ∀ start n, '/' ∉ n → next start (n ++ rest) = true → next' start n = true)
    (h : afterName strictDots next start (n ++ rest) = true) :
    afterName strictDots next' start n = true := by
  induction n generalizing start with
  | nil =>
    rw [afterName]
    refine hnext start [] hn ?_
    rcases hrest.eq_nil_or with rfl | ⟨rest, rfl⟩
    · exact h
    · simpa [afterName] using h
  | cons d n ih =>
    have hn' : '/' ∉ n := fun hmem => hn (List.mem_cons_of_mem d hmem)
    simp only [List.cons_append, afterName, Bool.or_eq_true, Bool.and_eq_true] at h ⊢
    rcases h with h | ⟨hd, h⟩
    · exact .inl (hnext start (d :: n) hn h)
    · exact .inr ⟨hd, ih hn' h⟩

/-- The tokens up to the end of the part match what the text has up to the slash. -/
theorem matchFrom_part (hw : wellPlaced false ts = true) (hn : '/' ∉ n) (hrest : AtSlash rest)
    (h : matchFrom strictDots ts start (n ++ rest) = true) :
    matchFrom strictDots (ts.takeWhile (!Token.endsPart ·)) start n = true := by
  induction ts generalizing start n with
  | nil =>
    have hnil : n ++ rest = [] := List.isEmpty_iff.1 h
    rw [(List.append_eq_nil_iff.1 hnil).1]
    rfl
  | cons t ts ih =>
    cases hend : t.endsPart with
    | true =>
      have hwild : t.isWild = false := by
        cases t with
        | anyPath => exact absurd (front_of_wellPlaced hw) Bool.false_ne_true
        | anySequence => cases hend
        | _ => rfl
      rw [List.takeWhile_cons_of_neg (by simp [hend])]
      cases n with
      | nil => rfl
      | cons c n =>
        rw [List.cons_append, matchFrom_single hwild, Bool.and_eq_true] at h
        cases eq_slash_of_accepts h.1 hend
        exact absurd List.mem_cons_self hn
    | false =>
      have hw' : wellPlaced false ts = true := hend ▸ wellPlaced_tail hw
      rw [List.takeWhile_cons_of_pos (by simp [hend])]
      cases hwild : t.isWild with
      | true =>
        cases t with
        | anySequence => exact afterName_name hn hrest (fun _ _ hn h => ih hw' hn h) h
        | anyPath => cases hend
        | _ => cases hwild
      | false =>
        cases n with
        | nil =>
          rw [List.nil_append] at h
          rcases hrest.eq_nil_or with rfl | ⟨rest, rfl⟩
          · rw [matchFrom_single_nil hwild] at h
            cases h
          · rw [matchFrom_single hwild, Bool.and_eq_true] at h
            cases eq_of_accepts_slash h.1
            cases hend
        | cons c n =>
          have hn' : '/' ∉ n := fun hmem => hn (List.mem_cons_of_mem c hmem)
          rw [List.cons_append, matchFrom_single hwild, Bool.and_eq_true] at h
          rw [matchFrom_single hwild, h.1, ih hw' hn' h.2]
          rfl

/-! ## Hidden names -/

theorem exists_toList_slashed_split (pre : List String) (name : String) (post : List String) :
    ∃ front rest, (Path.slashed (pre ++ name :: post)).toList = front ++ (name.toList ++ rest) ∧
      (front = [] ∨ ∃ before, front = before ++ ['/']) ∧ AtSlash rest := by
  induction pre with
  | nil =>
    cases post with
    | nil => exact ⟨[], [], by simp [Path.slashed, Path.unpieces], .inl rfl, nofun⟩
    | cons m post =>
      refine ⟨[], '/' :: (Path.slashed (m :: post)).toList, ?_, .inl rfl, by simp [AtSlash]⟩
      exact Path.slashed_cons (by simp)
  | cons m pre ih =>
    obtain ⟨front, rest, htext, hfront, hrest⟩ := ih
    refine ⟨m.toList ++ '/' :: front, rest, ?_, .inr ?_, hrest⟩
    · rw [List.cons_append, Path.slashed_cons (by simp), htext]
      simp
    · rcases hfront with rfl | ⟨before, rfl⟩
      · exact ⟨m.toList, rfl⟩
      · exact ⟨m.toList ++ '/' :: before, by simp⟩

/-- A hidden name is matched by a part with the dot in front, or with the dot behind one `*`. -/
theorem exists_part_of_hidden {names : List String} {name : String}
    (hw : wellPlaced true ts = true) (hnames : ∀ n ∈ names, '/' ∉ n.toList)
    (h : matchFrom true ts true (Path.slashed names).toList = true) (hname : name ∈ names)
    (hdot : name.toList.head? = some '.') :
    ∃ stars vs, (stars = [] ∨ stars = [.anySequence]) ∧
      HasPart ts (stars ++ .literal '.' :: vs) ∧
      matchFrom true (.literal '.' :: vs) true name.toList = true := by
  have hslash := hnames name hname
  obtain ⟨x, hx⟩ := List.head?_eq_some_iff.1 hdot
  obtain ⟨pre, post, rfl⟩ := List.append_of_mem hname
  obtain ⟨front, rest, htext, hfront, hrest⟩ := exists_toList_slashed_split pre name post
  rw [htext] at h
  -- the tokens from the part on in which the name starts
  have hsplit : ∃ us vs, ts = us ++ vs ∧ (∀ t ∈ us.getLast?, t.endsPart = true) ∧
      matchFrom true vs true (name.toList ++ rest) = true := by
    rcases hfront with rfl | ⟨before, rfl⟩
    · exact ⟨[], ts, rfl, nofun, h⟩
    · rw [List.append_assoc, List.singleton_append] at h
      obtain ⟨us, vs, rfl, hvs, hlast | hhead⟩ := exists_boundary h
      · exact ⟨us, vs, rfl, fun t ht => by rw [hlast] at ht; cases ht; rfl, hvs⟩
      · obtain ⟨vs', rfl⟩ := List.head?_eq_some_iff.1 hhead
        exact ⟨us, _, rfl, endsPart_of_anyPath hw, hvs⟩
  obtain ⟨us, vs, rfl, hus, hvs⟩ := hsplit
  rw [hx, List.cons_append] at hvs
  have hwvs := wellPlaced_of_append hw hus
  obtain ⟨ws, stars, vs, rfl, hws, hstars, hrestmatch⟩ := exists_dot hwvs hvs
  have hwpart : wellPlaced false vs = true := wellPlaced_behind hwvs
  have hxslash : '/' ∉ x := fun hmem => hslash (hx ▸ List.mem_cons_of_mem '.' hmem)
  refine ⟨stars, vs.takeWhile (!Token.endsPart ·), hstars,
    ⟨us ++ ws, vs.dropWhile (!Token.endsPart ·), ?_, ?_, head?_dropWhile hwpart, ?_⟩, ?_⟩
  · simp
  · intro t ht
    rw [List.getLast?_append, Option.mem_def, Option.or_eq_some_iff] at ht
    rcases ht with ht | ⟨-, ht⟩
    · rw [hws t (List.mem_of_getLast? ht)]
      rfl
    · exact hus t ht
  · intro t ht
    rcases List.mem_append.1 ht with ht | ht
    · rcases hstars with rfl | rfl
      · cases ht
      · rw [List.mem_singleton.1 ht]
        rfl
    rcases List.mem_cons.1 ht with rfl | ht
    · rfl
    · simpa using List.all_eq_true.1 List.all_takeWhile t ht
  · rw [hx]
    exact matchFrom_part hwpart hxslash hrest hrestmatch

/-! ## Parts in the text of a pattern -/

theorem exists_behind_of_spells (h : Spells front cs (t :: ts)) :
    ∃ front rest, Spells front rest ts ∧ rest <:+ cs ∧
      (t.endsPart = true → ts ≠ [] → ∃ before, cs = before ++ '/' :: rest) := by
  cases h with
  | anyPath => exact ⟨true, [], .nil, List.nil_suffix, fun _ hts => absurd rfl hts⟩
  | anyPathSlash h => exact ⟨_, _, h, ⟨['*', '*', '/'], rfl⟩, fun _ _ => ⟨['*', '*'], rfl⟩⟩
  | anySequence _ h => exact ⟨_, _, h, List.suffix_cons .., nofun⟩
  | anyChar h => exact ⟨_, _, h, List.suffix_cons .., nofun⟩
  | bracket hset h =>
    obtain ⟨hset, hsuffix⟩ := exists_set_of_bracket hset
    refine ⟨_, _, h, hsuffix.trans (List.suffix_cons ..), ?_⟩
    obtain ⟨set, rfl | rfl⟩ := hset <;> exact nofun
  | literal _ h =>
    refine ⟨_, _, h, List.suffix_cons .., fun hend _ => ⟨[], ?_⟩⟩
    rw [Token.endsPart_literal, beq_iff_eq] at hend
    rw [hend, List.nil_append]

/-- A part of the pattern is written at the front of the text or behind a slash. -/
theorem exists_text_of_spells (h : Spells front cs (us ++ ts)) (hts : ts ≠ [])
    (hus : ∀ t ∈ us.getLast?, t.endsPart = true) :
    ∃ front rest, Spells front rest ts ∧
      (us = [] ∧ rest = cs ∨ ∃ before, cs = before ++ '/' :: rest) := by
  induction us generalizing front cs with
  | nil => exact ⟨front, cs, h, .inl ⟨rfl, rfl⟩⟩
  | cons t us ih =>
    obtain ⟨front, rest, hrest, ⟨skipped, rfl⟩, hslash⟩ := exists_behind_of_spells h
    have hlast : ∀ u ∈ us.getLast?, u.endsPart = true := fun u hu =>
      hus u (by simp [List.getLast?_cons, Option.mem_def.1 hu])
    obtain ⟨front', part, hpart, ⟨rfl, rfl⟩ | ⟨before, rfl⟩⟩ := ih hrest hlast
    · exact ⟨front', part, hpart, .inr (hslash (hus t rfl) hts)⟩
    · exact ⟨front', part, hpart, .inr ⟨skipped ++ before, by simp⟩⟩

/-- A part with the dot in front, or with the dot behind one `*`, is seen in the text. -/
theorem exists_piece_of_part {stars : List Token} (h : Spells front cs ts)
    (hpart : HasPart ts (stars ++ .literal '.' :: part))
    (hstars : stars = [] ∨ stars = [.anySequence]) :
    ∃ piece ∈ Text.pieces '/' cs,
      stars = [] ∧ ['.'] <+: piece ∨ stars = [.anySequence] ∧ ['*', '.'] <+: piece := by
  obtain ⟨us, vs, rfl, hus, -, -⟩ := hpart
  rw [List.append_assoc] at h
  obtain ⟨front, rest, hrest, hplace⟩ := exists_text_of_spells h (by simp) hus
  have hmem : ∀ piece ∈ Text.pieces '/' rest, piece ∈ Text.pieces '/' cs := by
    intro piece hpiece
    rcases hplace with ⟨-, rfl⟩ | ⟨before, rfl⟩
    · exact hpiece
    · rw [Text.pieces_append_sep]
      exact List.mem_append_right _ hpiece
  rcases hstars with rfl | rfl
  · obtain ⟨cs', rfl, -⟩ := of_spells_literal hrest
    obtain ⟨piece, hpiece, hprefix⟩ := Text.exists_mem_pieces ['.'] cs' (by decide : '/' ∉ ['.'])
    exact ⟨piece, hmem piece hpiece, .inl ⟨rfl, hprefix⟩⟩
  · obtain ⟨_, rfl, hdot⟩ := of_spells_anySequence hrest
    obtain ⟨cs', rfl, -⟩ := of_spells_literal hdot
    obtain ⟨piece, hpiece, hprefix⟩ :=
      Text.exists_mem_pieces ['*', '.'] cs' (by decide : '/' ∉ ['*', '.'])
    exact ⟨piece, hmem piece hpiece, .inr ⟨rfl, hprefix⟩⟩

end Glob

namespace Discoverer

open BulkSuppress.Path (IsName)

/--
Where no part of the pattern starts with a dot, a hidden name on the way from the base to a
discovered file is matched by a part that starts with `*.`, of which the `*` stands for nothing.
-/
theorem hidden_behind_star (base root : Path) (ignore : List String) {pattern : String}
    {glob : Glob} {d : Disk} (hpattern : Glob.parse (Glob.normalizeSource pattern) = .ok glob)
    (hvisible : ∀ piece ∈ Text.pieces '/' (Glob.normalizeSource pattern).toList,
      piece.head? ≠ some '.')
    (hnames : d.WellNamed) :
    ∃ made, make base pattern root ignore = .ok made ∧
      ∀ files, (made.value.discover d).value = .ok files → ∀ p ∈ files,
        ∃ ns, ns ≠ [] ∧ (∀ n ∈ ns, IsName n) ∧ p = made.value.base.below ns ∧
          ∀ n ∈ ns, n.toList.head? = some '.' →
            (∃ piece ∈ Text.pieces '/' (Glob.normalizeSource pattern).toList,
              ['*', '.'] <+: piece) ∧
            ∃ vs, Glob.HasPart glob.tokens (.anySequence :: .literal '.' :: vs) ∧
              Glob.matchFrom true (.literal '.' :: vs) true n.toList = true := by
  refine ⟨_, by simp only [make, hpattern]; rfl, fun files hfiles p hp => ?_⟩
  obtain ⟨ns, hne, hns, rfl, hmatch⟩ := (admits_of_mem_discovered hnames hfiles hp).below
  obtain ⟨-, hspells⟩ := Glob.parse_eq_ok_iff.1 hpattern
  have hslash : ∀ n ∈ ns, '/' ∉ n.toList := fun n hn => (hns n hn).2.2.2
  rw [Glob.isMatch_eq] at hmatch
  refine ⟨ns, hne, hns, rfl, fun n hn hdot => ?_⟩
  obtain ⟨stars, vs, hstars, hpart, hname⟩ := Glob.exists_part_of_hidden
    (Glob.wellPlaced_of_spells hspells) hslash hmatch hn hdot
  obtain ⟨piece, hpiece, ⟨-, rest, rfl⟩ | ⟨rfl, hprefix⟩⟩ :=
    Glob.exists_piece_of_part hspells hpart hstars
  · exact absurd rfl (hvisible _ hpiece)
  · exact ⟨⟨piece, hpiece, hprefix⟩, vs, hpart, hname⟩

/-! ## A hidden file that the usual pattern selects -/

/-- A file whose name is an extension only, beside another hidden file and one in sight. -/
def extensionDisk : Disk where
  entries := [([".js"], .file .empty false), ([".x.js"], .file .empty false),
    (["a.js"], .file .empty false)]

/-- The sources. -/
def sources : Discoverer where
  base := ⟨"/"⟩
  projectRoot := ⟨"/"⟩
  selection := ⟨"**/*.js", [.anyPath, .anySequence, .literal '.', .literal 'j', .literal 's']⟩
  filter := Exclusion.Filter.default

theorem make_sources : make ⟨"."⟩ "**/*.js" ⟨"/"⟩ [] = .ok ⟨sources, []⟩ := by
  simp only [make, parse_scripts]
  rfl

theorem visible_sources : ∀ piece ∈ Text.pieces '/' (Glob.normalizeSource "**/*.js").toList,
    piece.head? ≠ some '.' := by
  decide

theorem wellNamed_extensionDisk : extensionDisk.WellNamed := by
  simp only [Disk.WellNamed, extensionDisk]
  decide

theorem discover_extensionDisk : (sources.discover extensionDisk).value =
    .ok (((sources.candidates extensionDisk []).filter extensionDisk.isFile).filter
      sources.selects) :=
  discover_value (Disk.resolve_root extensionDisk) rfl

/-- Hidden sources are only what the part behind the `*` matches, as `.js` is and `.x.js` is not. -/
theorem hidden_behind_star_sources :
    Glob.parse (Glob.normalizeSource "**/*.js") = .ok sources.selection ∧
      (∀ piece ∈ Text.pieces '/' (Glob.normalizeSource "**/*.js").toList,
        piece.head? ≠ some '.') ∧ extensionDisk.WellNamed ∧
      ∃ files, (sources.discover extensionDisk).value = .ok files ∧
        ∀ p ∈ files, ∃ ns, ns ≠ [] ∧ p = sources.base.below ns ∧
          ∀ n ∈ ns, n.toList.head? = some '.' →
            ∃ vs, Glob.HasPart sources.selection.tokens (.anySequence :: .literal '.' :: vs) ∧
              Glob.matchFrom true (.literal '.' :: vs) true n.toList = true := by
  obtain ⟨made, hmake, hfiles⟩ := hidden_behind_star ⟨"."⟩ ⟨"/"⟩ [] parse_scripts visible_sources
    wellNamed_extensionDisk
  cases Except.ok.inj (hmake.symm.trans make_sources)
  refine ⟨parse_scripts, visible_sources, wellNamed_extensionDisk, _, discover_extensionDisk,
    fun p hp => ?_⟩
  obtain ⟨ns, hne, -, hbelow, hhidden⟩ := hfiles _ discover_extensionDisk p hp
  exact ⟨ns, hne, hbelow, fun n hn hdot => (hhidden n hn hdot).2⟩

/-- The usual pattern has no part with a dot in front, and selects a hidden file. -/
theorem hidden_by_extension :
    (∀ piece ∈ Text.pieces '/' (Glob.normalizeSource "**/*.js").toList,
        piece.head? ≠ some '.') ∧
      make ⟨"."⟩ "**/*.js" ⟨"/"⟩ [] = .ok ⟨sources, []⟩ ∧
      ∃ files, (sources.discover extensionDisk).value = .ok files ∧
        sources.base.below [".js"] ∈ files := by
  have hfile : extensionDisk.isFile (sources.base.below [".js"]) = true := by
    have hp : sources.base.below [".js"] = ⟨"/.js"⟩ := by decide
    have h : extensionDisk.resolve ⟨"/.js"⟩ = .ok [".js"] := by
      simp only [Disk.resolve, Disk.locate]
      simp [Disk.walk, extensionDisk, Disk.piecesOf, Text.pieces, Disk.startOf, Path.isAbsolute,
        Component.ofPiece?, Disk.kind?, Disk.entryAt?, Entry.kind]
      rfl
    rw [hp, Disk.isFile, Disk.stat?, h]
    rfl
  have hlinks : extensionDisk.LinkFree [] :=
    Disk.linkFree_of_entries (by simp [extensionDisk, Entry.kind]) []
  refine ⟨visible_sources, make_sources, _, discover_extensionDisk,
    List.mem_filter.2 ⟨List.mem_filter.2 ⟨?_, hfile⟩, by decide +kernel⟩⟩
  rw [mem_candidates_iff (Disk.resolve_root extensionDisk) rfl hlinks wellNamed_extensionDisk
    (by decide) hfile]
  -- no directory is above a file in the base
  rintro pre ⟨hne, rest, hrest, hsplit⟩
  have hlen := congrArg List.length hsplit
  have hpre := List.length_pos_of_ne_nil hne
  have hpost := List.length_pos_of_ne_nil hrest
  simp only [List.length_append, List.length_singleton] at hlen
  omega

end Discoverer
end BulkSuppress
