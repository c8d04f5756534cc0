import Mathlib.Data.List.Forall2
import BulkSuppress.Proofs.Discovery.Hidden

/-
  What normalization does to the files that a pattern selects. A path that is spelled by names has
  no idle pieces (`Tidy`), and an idle piece of a pattern asks for one in the path
  (`exists_of_idle`). So a pattern with an idle piece matches no such path as it is written, and
  normalization takes nothing from it, with two exceptions: a slash behind `**` at the end of the
  pattern, which stands for nothing, and pieces between brackets, where a slash does not separate
  but belongs to the set. Hence a pattern that matches a path has the same tokens once it is
  normalized, one by one, but for its sets (`forall₂_becomes`), and it goes on matching the path
  unless one of its sets has lost a character of it (`matches_normalized_but_for_sets`). That can
  happen (`normalization_deselects`).
-/

namespace BulkSuppress.Glob

open BulkSuppress.Path (IsName)

variable {front start strictDots : Bool} {c : Char} {a b cs piece : List Char}
variable {t u : Token} {ts us : List Token} {next next' : Bool → List Char → Bool}

/-! ## Paths without idle pieces -/

/--
Nothing is left of the path, or a rest without idle pieces. Of a rest that is not at the start of
a name, the first piece does not count.
-/
def Tidy (start : Bool) (cs : List Char) : Prop :=
  cs = [] ∨ ∀ piece ∈ (Text.pieces '/' cs).drop (if start then 0 else 1), Path.isIdle piece = false

/-- A piece ends at a slash or with the text. -/
theorem exists_pieces_of_atSlash (hidle : Path.isIdle piece = true) (ha : AtSlash a) :
    ∃ pieces, Text.pieces '/' (piece ++ a) = piece :: pieces := by
  have hpiece : '/' ∉ piece := by
    rcases Path.isIdle_iff.1 hidle with rfl | rfl <;> decide
  rcases ha.eq_nil_or with rfl | ⟨a, rfl⟩
  · exact ⟨[], by rw [List.append_nil, Text.pieces_of_not_mem hpiece]⟩
  · exact ⟨_, by rw [Text.pieces_append_sep, Text.pieces_of_not_mem hpiece]; rfl⟩

/-- No idle piece is at the start of a name. -/
theorem Tidy.eq_nil_of_idle (h : Tidy true (piece ++ a)) (hidle : Path.isIdle piece = true)
    (ha : AtSlash a) : piece ++ a = [] := by
  obtain ⟨pieces, hpieces⟩ := exists_pieces_of_atSlash hidle ha
  refine h.resolve_right fun hsolid => ?_
  have hpiece := hsolid piece (by rw [hpieces]; exact List.mem_cons_self)
  rw [hidle] at hpiece
  cases hpiece

/-- No idle piece is behind a slash. -/
theorem not_tidy_idle (hidle : Path.isIdle piece = true) (ha : AtSlash a) :
    ¬ Tidy start ('/' :: (piece ++ a)) := by
  intro h
  obtain ⟨pieces, hpieces⟩ := exists_pieces_of_atSlash hidle ha
  have hsolid := h.resolve_left (List.cons_ne_nil _ _) piece (by
    rw [Text.pieces_cons_sep, hpieces]
    cases start <;> simp)
  rw [hidle] at hsolid
  cases hsolid

theorem Tidy.tail (h : Tidy start (c :: cs)) : Tidy (c == '/') cs := by
  have hsolid := h.resolve_left (List.cons_ne_nil c cs)
  by_cases hc : c = '/'
  · subst hc
    rw [Text.pieces_cons_sep] at hsolid
    exact .inr fun piece hpiece => hsolid piece (by cases start <;> simp_all)
  · obtain ⟨piece, pieces, hpieces⟩ := List.exists_cons_of_ne_nil (Text.pieces_ne_nil '/' cs)
    rw [Text.pieces, if_neg hc, hpieces] at hsolid
    refine .inr fun p hp => hsolid p ?_
    rw [hpieces] at hp
    cases start <;> simp_all

/-- Paths of names have no idle pieces. -/
theorem tidy_slashed {ns : List String} (h : ∀ n ∈ ns, IsName n) :
    Tidy true (Path.slashed ns).toList := by
  by_cases hns : ns = []
  · subst hns
    exact .inl rfl
  · refine .inr fun piece hpiece => ?_
    rw [Path.pieces_slashed hns fun n hn => (h n hn).2.2.2] at hpiece
    obtain ⟨n, hn, rfl⟩ := List.mem_map.1 hpiece
    simp [Path.isIdle, (h n hn).ofPiece?]

/-! ## Tokens that match a tidy rest -/

/-- The tokens match what is left of some path without idle pieces. -/
def MatchesTidy (strictDots : Bool) (ts : List Token) : Prop :=
  ∃ start cs, Tidy start cs ∧ matchFrom strictDots ts start cs = true

/-- A `*` leaves a tidy rest. -/
theorem exists_of_afterName (hs : Tidy start cs)
    (h : afterName strictDots next start cs = true) :
    ∃ start cs, Tidy start cs ∧ next start cs = true := by
  induction cs generalizing start with
  | nil => exact ⟨start, [], hs, h⟩
  | cons c cs ih =>
    simp only [afterName, Bool.or_eq_true, Bool.and_eq_true, bne_iff_ne] at h
    rcases h with h | ⟨⟨-, hc⟩, h⟩
    · exact ⟨start, c :: cs, hs, h⟩
    · exact ih (beq_eq_false_iff_ne.2 hc ▸ hs.tail) h

/-- A `**` leaves nothing, or a tidy rest at the start of a name. -/
theorem exists_of_afterPath (hs : Tidy start cs)
    (h : afterPath strictDots next start cs = true) :
    ∃ start cs, Tidy start cs ∧ (cs = [] ∨ start = true) ∧ next start cs = true := by
  induction cs generalizing start with
  | nil => exact ⟨start, [], hs, .inl rfl, h⟩
  | cons c cs ih =>
    simp only [afterPath, Bool.or_eq_true, Bool.and_eq_true] at h
    rcases h with ⟨hstart, h⟩ | ⟨-, h⟩
    · exact ⟨start, c :: cs, hs, .inr hstart, h⟩
    · exact ih hs.tail h

/-- Any token leaves a tidy rest to those behind it. -/
theorem MatchesTidy.tail (h : MatchesTidy strictDots (t :: ts)) :
    MatchesTidy strictDots ts := by
  obtain ⟨start, cs, hs, hm⟩ := h
  cases hwild : t.isWild with
  | true =>
    cases t with
    | anySequence => exact exists_of_afterName hs hm
    | anyPath =>
      obtain ⟨start, cs, hs, -, hm⟩ := exists_of_afterPath hs hm
      exact ⟨start, cs, hs, hm⟩
    | _ => cases hwild
  | false =>
    cases cs with
    | nil => simp [matchFrom_single_nil hwild] at hm
    | cons c cs =>
      rw [matchFrom_single hwild, Bool.and_eq_true] at hm
      exact ⟨_, cs, hs.tail, hm.2⟩

/-! ## Idle pieces in a pattern -/

theorem exists_of_literal (h : matchFrom strictDots (.literal c :: ts) start cs = true) :
    ∃ rest, cs = c :: rest ∧ matchFrom strictDots ts (c == '/') rest = true := by
  cases cs with
  | nil => cases h
  | cons d rest =>
    rw [matchFrom_single rfl, Bool.and_eq_true] at h
    cases beq_iff_eq.1 h.1
    exact ⟨rest, rfl, h.2⟩

/-- A text that ends, or goes on with a slash, matches what does the same. -/
theorem AtSlash.of_matchFrom (ha : AtSlash a) (h : Spells front a ts)
    (hm : matchFrom strictDots ts start cs = true) : AtSlash cs := by
  rcases ha.eq_nil_or with rfl | ⟨a, rfl⟩
  · cases h
    rw [List.isEmpty_iff.1 hm]
    nofun
  · obtain ⟨us, rfl, -⟩ := (spells_literal_iff (by decide)).1 h
    obtain ⟨rest, rfl, -⟩ := exists_of_literal hm
    simp [AtSlash]

/-- An idle piece of a pattern matches such a piece of the path only. -/
theorem exists_of_idle (hidle : Path.isIdle piece = true) (ha : AtSlash a)
    (h : Spells front (piece ++ a) ts) (hm : matchFrom strictDots ts start cs = true) :
    ∃ rest, cs = piece ++ rest ∧ AtSlash rest := by
  rcases Path.isIdle_iff.1 hidle with rfl | rfl
  · exact ⟨cs, rfl, ha.of_matchFrom h hm⟩
  · obtain ⟨us, rfl, hus⟩ := (spells_literal_iff (by decide)).1 h
    obtain ⟨rest, rfl, hrest⟩ := exists_of_literal hm
    exact ⟨rest, rfl, ha.of_matchFrom hus hrest⟩

/-- A pattern with an idle piece behind a slash matches no path of names. -/
theorem not_matchesTidy_slash_idle (hidle : Path.isIdle piece = true) (ha : AtSlash a)
    (h : Spells front ('/' :: (piece ++ a)) ts) : ¬ MatchesTidy strictDots ts := by
  rintro ⟨start, cs, hs, hm⟩
  obtain ⟨us, rfl, hus⟩ := (spells_literal_iff (by decide)).1 h
  obtain ⟨rest, rfl, hrest⟩ := exists_of_literal hm
  obtain ⟨rest, rfl, hslash⟩ := exists_of_idle hidle ha hus hrest
  exact not_tidy_idle hidle hslash hs

/-- Neither does one with an idle piece behind `**/`, unless the pattern ends with the slash. -/
theorem eq_nil_of_matchesTidy_anyPath (hidle : Path.isIdle piece = true) (ha : AtSlash a)
    (h : Spells front (piece ++ a) ts) (hm : MatchesTidy strictDots (.anyPath :: ts)) :
    piece ++ a = [] := by
  obtain ⟨start, cs, hs, hm⟩ := hm
  obtain ⟨start, cs, hs, hstart, hm⟩ := exists_of_afterPath hs hm
  obtain ⟨rest, rfl, hrest⟩ := exists_of_idle hidle ha h hm
  have hnil : piece ++ rest = [] := by
    rcases hstart with hnil | rfl
    · exact hnil
    · exact hs.eq_nil_of_idle hidle hrest
  obtain ⟨rfl, rfl⟩ := List.append_eq_nil_iff.1 hnil
  rcases ha.eq_nil_or with rfl | ⟨a, rfl⟩
  · rfl
  · obtain ⟨us, rfl, -⟩ := (spells_literal_iff (by decide)).1 h
    cases hm

/-! ## Token by token -/

theorem Thins.exists_cons (hc : c ≠ '/') (h : Thins (c :: a) b) : ∃ rest, b = c :: rest ∧
    Thins a rest := by
  generalize hcs : c :: a = cs at h
  cases h with
  | nil => cases hcs
  | keep d h =>
    cases hcs
    exact ⟨_, rfl, h⟩
  | drop => exact absurd (List.cons.inj hcs).1 hc

/-- Two stars and a slash, and what follows them thinned, or dropped with the slash. -/
theorem Thins.of_slash (h : Thins ('/' :: a) b) : (∃ rest, b = '/' :: rest ∧ Thins a rest) ∨
    ∃ piece rest, a = piece ++ rest ∧ Path.isIdle piece = true ∧ AtSlash rest ∧ Thins rest b := by
  generalize hcs : '/' :: a = cs at h
  cases h with
  | nil => cases hcs
  | keep d h =>
    cases hcs
    exact .inl ⟨_, rfl, h⟩
  | drop hidle hend h =>
    cases hcs
    exact .inr ⟨_, _, rfl, hidle, hend, h⟩

/--
A pattern that matches a path of names has the same tokens with the idle pieces taken out, but for
its sets, which are those of the brackets that are left.
-/
theorem forall₂_becomes (h : Spells front a ts) (hthins : Thins a b) (hb : Spells front b us)
    (hm : MatchesTidy strictDots ts) : List.Forall₂ Becomes ts us := by
  induction h generalizing b us with
  | nil =>
    cases hthins
    cases hb
    exact .nil
  | anyPath =>
    obtain ⟨b, rfl, hstar⟩ := hthins.exists_cons (by decide)
    obtain ⟨b, rfl, hnil⟩ := hstar.exists_cons (by decide)
    cases hnil
    rw [hb.unique .anyPath]
    exact .cons (.same _) .nil
  | anyPathSlash hrest ih =>
    obtain ⟨b, rfl, hstar⟩ := hthins.exists_cons (by decide)
    obtain ⟨b, rfl, hslash⟩ := hstar.exists_cons (by decide)
    rcases hslash.of_slash with ⟨b, rfl, htail⟩ | ⟨piece, rest, rfl, hidle, hend, htail⟩
    · obtain ⟨vs, rfl, hvs⟩ := spells_anyPath_iff.1 hb
      exact .cons (.same _) (ih htail hvs hm.tail)
    · -- the slash that is dropped is the end of the pattern
      have hnil := eq_nil_of_matchesTidy_anyPath hidle hend hrest hm
      obtain ⟨rfl, rfl⟩ := List.append_eq_nil_iff.1 hnil
      cases htail
      cases hrest
      rw [hb.unique .anyPath]
      exact .cons (.same _) .nil
  | anySequence hone hrest ih =>
    obtain ⟨b, rfl, htail⟩ := hthins.exists_cons (by decide)
    have hone' : b.head? ≠ some '*' := fun hstar => hone ((htail.head?_eq_iff (by decide)).2 hstar)
    obtain ⟨vs, rfl, hvs⟩ := (spells_anySequence_iff hone').1 hb
    exact .cons (.same _) (ih htail hvs hm.tail)
  | anyChar hrest ih =>
    obtain ⟨b, rfl, htail⟩ := hthins.exists_cons (by decide)
    obtain ⟨vs, rfl, hvs⟩ := spells_anyChar_iff.1 hb
    exact .cons (.same _) (ih htail hvs hm.tail)
  | bracket hset hrest ih =>
    obtain ⟨b, rfl, htail⟩ := hthins.exists_cons (by decide)
    obtain ⟨u, rest', vs, rfl, hset', hvs⟩ := spells_bracket_iff.1 hb
    have hrel := htail.rel_bracket
    rw [hset, hset'] at hrel
    cases hrel with
    | some hboth => exact .cons hboth.1 (ih hboth.2 hvs hm.tail)
  | @literal front c rest ts hc hrest ih =>
    by_cases hslash : c = '/'
    · subst hslash
      rcases hthins.of_slash with ⟨b, rfl, htail⟩ | ⟨piece, rest, rfl, hidle, hend, -⟩
      · obtain ⟨vs, rfl, hvs⟩ := (spells_literal_iff hc).1 hb
        exact .cons (.same _) (ih htail hvs hm.tail)
      · have hspells : Spells front ('/' :: (piece ++ rest)) (.literal '/' :: ts) :=
          .literal hc hrest
        exact absurd hm (not_matchesTidy_slash_idle hidle hend hspells)
    · obtain ⟨b, rfl, htail⟩ := hthins.exists_cons hslash
      obtain ⟨vs, rfl, hvs⟩ := (spells_literal_iff hc).1 hb
      exact .cons (.same _) (ih htail hvs hm.tail)

/-! ## Matching with sets that have changed -/

/-- What a token takes, it takes in whatever dots are, unless that is a dot to be left alone. -/
theorem Becomes.accepts (h : Becomes t u)
    (hkeep : t.accepts true false c = true → u.accepts true false c = true)
    (hc : t.accepts strictDots start c = true) : u.accepts strictDots start c = true := by
  cases h with
  | same => exact hc
  | set inverted h =>
    cases inverted <;> simp_all [setToken, Token.accepts, isGuardedDot]

theorem Becomes.isWild_eq (h : Becomes t u) : u.isWild = t.isWild := by
  cases h with
  | same => rfl
  | set inverted h => cases inverted <;> rfl

theorem Becomes.eq_of_isWild (h : Becomes t u) (hwild : t.isWild = true) : u = t := by
  cases h with
  | same => rfl
  | set inverted h => cases inverted <;> cases hwild

theorem afterName_mono (hnext : ∀ start rest, rest <:+ cs → next start rest = true →
      next' start rest = true)
    (h : afterName strictDots next start cs = true) :
    afterName strictDots next' start cs = true := by
  induction cs generalizing start with
  | nil => exact hnext start [] List.suffix_rfl h
  | cons c cs ih =>
    simp only [afterName, Bool.or_eq_true, Bool.and_eq_true] at h ⊢
    rcases h with h | ⟨hc, h⟩
    · exact .inl (hnext start _ List.suffix_rfl h)
    · exact .inr ⟨hc, ih (fun start rest hrest => hnext start rest (hrest.trans
        (List.suffix_cons c cs))) h⟩

theorem afterPath_mono (hnext : ∀ start rest, rest <:+ cs → next start rest = true →
      next' start rest = true)
    (h : afterPath strictDots next start cs = true) :
    afterPath strictDots next' start cs = true := by
  induction cs generalizing start with
  | nil => exact hnext start [] List.suffix_rfl h
  | cons c cs ih =>
    simp only [afterPath, Bool.or_eq_true, Bool.and_eq_true] at h ⊢
    rcases h with ⟨hs, h⟩ | ⟨hc, h⟩
    · exact .inl ⟨hs, hnext start _ List.suffix_rfl h⟩
    · exact .inr ⟨hc, ih (fun start rest hrest => hnext start rest (hrest.trans
        (List.suffix_cons c cs))) h⟩

/-- Tokens go on matching a text if no set among them has lost a character of it. -/
theorem matchFrom_of_becomes (h : List.Forall₂ Becomes ts us)
    (hkeep : ∀ p ∈ ts.zip us, ∀ c ∈ cs, p.1.accepts true false c = true →
      p.2.accepts true false c = true)
    (hm : matchFrom strictDots ts start cs = true) : matchFrom strictDots us start cs = true := by
  induction h generalizing start cs with
  | nil => exact hm
  | @cons t u ts us htu _ ih =>
    rw [List.zip_cons_cons, List.forall_mem_cons] at hkeep
    obtain ⟨hhead, htail⟩ := hkeep
    have hnext (start : Bool) (rest : List Char) (hrest : rest <:+ cs)
        (h : matchFrom strictDots ts start rest = true) :
        matchFrom strictDots us start rest = true :=
      ih (fun p hp c hc => htail p hp c (hrest.subset hc)) h
    cases hwild : t.isWild with
    | true =>
      cases htu.eq_of_isWild hwild
      cases t with
      | anySequence => exact afterName_mono hnext hm
      | anyPath => exact afterPath_mono hnext hm
      | _ => cases hwild
    | false =>
      cases cs with
      | nil => simp [matchFrom_single_nil hwild] at hm
      | cons c cs =>
        rw [matchFrom_single hwild, Bool.and_eq_true] at hm
        rw [matchFrom_single (htu.isWild_eq.trans hwild), Bool.and_eq_true]
        exact ⟨htu.accepts (hhead c List.mem_cons_self) hm.1,
          hnext _ cs (List.suffix_cons c cs) hm.2⟩

/-! ## Normalization -/

/-- What a pattern that matches a path of names becomes if it is normalized. -/
theorem forall₂_becomes_normalizeSource {pattern : String} (h : Spells true pattern.toList ts)
    (hb : Spells true (normalizeSource pattern).toList us) (hs : Tidy true cs)
    (hm : matchFrom strictDots ts true cs = true) : List.Forall₂ Becomes ts us := by
  obtain ⟨piece, pieces, hpieces⟩ :=
    List.exists_cons_of_ne_nil (Text.pieces_ne_nil '/' pattern.toList)
  have htext : pattern.toList = piece ++ behindSlashes pieces := by
    rw [← intercalate_cons, ← hpieces, Text.intercalate_pieces]
  rw [toList_normalizeSource hpieces] at hb
  rw [htext] at h
  split at hb
  · -- a dot that comes first is one that no path of names has
    rename_i hdot
    have hidle : Path.isIdle piece = true := Path.isIdle_iff.2 (.inr hdot)
    obtain ⟨rest, rfl, hrest⟩ := exists_of_idle hidle (atSlash_behindSlashes pieces) h hm
    have hnil := hs.eq_nil_of_idle hidle hrest
    rw [hdot] at hnil
    cases hnil
  · exact forall₂_becomes h ((thins_behindSlashes pieces).append_left piece) hb ⟨true, cs, hs, hm⟩

theorem Thins.eq_of_not_mem (h : Thins a b) (hslash : '/' ∉ a) : a = b := by
  induction h with
  | nil => rfl
  | keep c _ ih => rw [ih fun hmem => hslash (List.mem_cons_of_mem c hmem)]
  | drop => exact absurd List.mem_cons_self hslash

/--
At some place, the first tokens have a set that takes the character, and the second ones have what
is left of the set, which does not. The set is spelled with a slash.
-/
def SetLoses (ts us : List Token) (c : Char) : Prop :=
  ∃ inverted x y, (setToken inverted x, setToken inverted y) ∈ ts.zip us ∧ '/' ∈ x ∧ Thins x y ∧
    (setToken inverted x).accepts true false c = true ∧
    (setToken inverted y).accepts true false c = false

/-- If it is not a set that has lost a character of the text, the tokens go on matching it. -/
theorem matchFrom_or_setLoses (h : List.Forall₂ Becomes ts us)
    (hm : matchFrom strictDots ts start cs = true) :
    matchFrom strictDots us start cs = true ∨ ∃ c ∈ cs, SetLoses ts us c := by
  by_cases hkeep : ∀ p ∈ ts.zip us, ∀ c ∈ cs, p.1.accepts true false c = true →
      p.2.accepts true false c = true
  · exact .inl (matchFrom_of_becomes h hkeep hm)
  · push Not at hkeep
    obtain ⟨⟨t, u⟩, hmem, c, hc, htakes, hloses⟩ := hkeep
    dsimp only at htakes hloses
    rw [Ne, Bool.not_eq_true] at hloses
    refine .inr ⟨c, hc, ?_⟩
    cases List.forall₂_zip h hmem with
    | same =>
      rw [htakes] at hloses
      cases hloses
    | set inverted hthins =>
      refine ⟨inverted, _, _, hmem, ?_, hthins, htakes, hloses⟩
      by_contra hslash
      rw [hthins.eq_of_not_mem hslash, hloses] at htakes
      cases htakes

/--
A pattern that matches a path of names can be read normalized, with the same tokens one by one, but
for sets that idle pieces are taken out of. The normalized pattern matches the path as well, unless
a set that is spelled with a slash has lost a character of the path. Dots may be strict or not.
-/
theorem matches_normalized_but_for_sets {pattern : String} {g : Glob} {ns : List String}
    (hparse : parse pattern = .ok g) (hn : ∀ n ∈ ns, IsName n)
    (hmatch : g.isMatch strictDots (Path.slashed ns) = true) :
    ∃ h, parse (normalizeSource pattern) = .ok h ∧ List.Forall₂ Becomes g.tokens h.tokens ∧
      (h.isMatch strictDots (Path.slashed ns) = true ∨
        ∃ c ∈ (Path.slashed ns).toList, SetLoses g.tokens h.tokens c) := by
  obtain ⟨h, hnormalized⟩ := (exists_parse_normalizeSource_iff pattern).2 ⟨g, hparse⟩
  have hg := (parse_eq_ok_iff.1 hparse).2
  have hh := (parse_eq_ok_iff.1 hnormalized).2
  rw [isMatch_eq] at hmatch
  have htokens := forall₂_becomes_normalizeSource hg hh (tidy_slashed hn) hmatch
  refine ⟨h, hnormalized, htokens, ?_⟩
  rw [isMatch_eq]
  exact matchFrom_or_setLoses htokens hmatch

/-- What a name that starts outside the set stands for, with everything in it. -/
def outsideTokens (set : List Char) : List Token :=
  [.noneOf (rangesOf set), .anySequence, .literal '/', .anyPath]

/-- An inverted set takes no fewer characters with pieces taken out, and a script stays selected. -/
theorem matches_normalized_but_for_sets_inverted :
    (∃ g, parse "[!_/./]*/**/" = .ok g ∧ g.isMatch true (Path.slashed ["src", "a.js"]) = true) ∧
      ∃ h, parse (normalizeSource "[!_/./]*/**/") = .ok h ∧
        h.isMatch true (Path.slashed ["src", "a.js"]) = true := by
  have hparse : parse "[!_/./]*/**/"
      = .ok ⟨"[!_/./]*/**/", outsideTokens ['_', '/', '.', '/']⟩ := by decide +kernel
  have hnormalized : parse (normalizeSource "[!_/./]*/**/")
      = .ok ⟨"[!_/]*/**", outsideTokens ['_', '/']⟩ := by decide +kernel
  have hn : ∀ n ∈ ["src", "a.js"], IsName n := by decide
  have hmatch : isMatch true ⟨"[!_/./]*/**/", outsideTokens ['_', '/', '.', '/']⟩
      (Path.slashed ["src", "a.js"]) = true := by decide
  have hkeeps : ((outsideTokens ['_', '/', '.', '/']).zip (outsideTokens ['_', '/'])).all (fun p =>
      (Path.slashed ["src", "a.js"]).toList.all fun c =>
        !p.1.accepts true false c || p.2.accepts true false c) = true := by decide
  refine ⟨⟨_, hparse, hmatch⟩, ?_⟩
  obtain ⟨h, hread, -, hstill | ⟨c, hc, _, _, _, hmem, -, -, htakes, hloses⟩⟩ :=
    matches_normalized_but_for_sets hparse hn hmatch
  · exact ⟨h, hread, hstill⟩
  · rw [hnormalized] at hread
    cases hread
    have hkept := List.all_eq_true.1 (List.all_eq_true.1 hkeeps _ hmem) c hc
    rw [htakes, hloses] at hkept
    cases hkept

/-- Between brackets, a dot is taken for an idle piece, and the set loses it. -/
theorem normalization_deselects : ∃ g h, parse "a[/./]b" = .ok g ∧
    parse (normalizeSource "a[/./]b") = .ok h ∧ IsName "a.b" ∧
      g.isMatch true (Path.slashed ["a.b"]) = true ∧
      h.isMatch true (Path.slashed ["a.b"]) = false := by
  have hparse : parse "a[/./]b" = .ok ⟨"a[/./]b",
      [.literal 'a', .oneOf (rangesOf ['/', '.', '/']), .literal 'b']⟩ := by decide +kernel
  have hnormalized : parse (normalizeSource "a[/./]b") = .ok ⟨"a[/]b",
      [.literal 'a', .oneOf (rangesOf ['/']), .literal 'b']⟩ := by decide +kernel
  exact ⟨_, _, hparse, hnormalized, by decide⟩

end BulkSuppress.Glob
