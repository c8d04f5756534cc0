import BulkSuppress.Proofs.Discovery.Hidden
import BulkSuppress.Proofs.Exclusion.LastMatch
import BulkSuppress.Proofs.Path.Settle

/-
  Names at any depth. A pattern without a slash is tried on every single name of a path. With `**/`
  in front it is tried on the paths down to these names, where the `**` takes whatever is above the
  last one and the rest has to match that name (`matchFrom_anyPath_name`): but for a `**` of its
  own, which matches everything, no part of such a pattern gets over a slash. So the two patterns
  match the same paths, with and without marks around them (`matches_at_any_depth`).
-/

namespace BulkSuppress

namespace Glob

variable {front start strictDots : Bool} {ts : List Token} {cs : List Char} {n : String}
variable {above : List String} {next : Bool → List Char → Bool}

/-! ## Patterns without slashes -/

/-- A pattern without slashes is one part, or a `**` of its own. -/
theorem endsPart_of_spells (h : Spells front cs ts) (hs : '/' ∉ cs) :
    front = true ∧ ts = [.anyPath] ∨ ∀ t ∈ ts, t.endsPart = false := by
  have htail {t : Token} {ts : List Token} (ht : t.endsPart = false)
      (h : false = true ∧ ts = [.anyPath] ∨ ∀ t ∈ ts, t.endsPart = false) :
      ∀ u ∈ t :: ts, u.endsPart = false :=
    List.forall_mem_cons.2 ⟨ht, h.resolve_left fun h => Bool.false_ne_true h.1⟩
  induction h with
  | nil => exact .inr (List.forall_mem_nil _)
  | anyPath => exact .inl ⟨rfl, rfl⟩
  | anyPathSlash => simp at hs
  | anySequence _ _ ih => exact .inr (htail rfl (ih fun h => hs (List.mem_cons_of_mem _ h)))
  | anyChar _ ih => exact .inr (htail rfl (ih fun h => hs (List.mem_cons_of_mem _ h)))
  | bracket hset _ ih =>
    obtain ⟨⟨set, hset'⟩, hsuffix⟩ := exists_set_of_bracket hset
    refine .inr (htail ?_ (ih fun h => hs (List.mem_cons_of_mem _ (hsuffix.subset h))))
    rcases hset' with rfl | rfl <;> rfl
  | @literal _ c _ _ _ _ ih =>
    have hc : (c == '/') = false := by
      simpa using fun e : c = '/' => hs (by rw [e]; exact List.mem_cons_self)
    rw [hc] at ih
    refine .inr (htail ?_ (ih fun h => hs (List.mem_cons_of_mem _ h)))
    rw [Token.endsPart_literal, hc]

/-- One part of a pattern does not match over a slash. -/
theorem not_mem_slash_of_matchFrom (hts : ∀ t ∈ ts, t.endsPart = false)
    (h : matchFrom strictDots ts start cs = true) : '/' ∉ cs := by
  intro hslash
  obtain ⟨pre, suf, rfl⟩ := List.append_of_mem hslash
  obtain ⟨us, vs, rfl, -, hlast | hhead⟩ := exists_boundary h
  · have hmem : Token.literal '/' ∈ us ++ vs := List.mem_append_left _ (List.mem_of_getLast? hlast)
    exact absurd (hts _ hmem) (by decide)
  · have hmem : Token.anyPath ∈ us ++ vs := List.mem_append_right _ (List.mem_of_head? hhead)
    exact absurd (hts _ hmem) (by decide)

/-- Only wildcards match the empty text. -/
theorem isWild_of_matchFrom_nil (h : matchFrom strictDots ts start [] = true) :
    ∀ t ∈ ts, t.isWild = true := by
  induction ts generalizing start with
  | nil => exact List.forall_mem_nil _
  | cons t ts ih =>
    cases t with
    | anySequence => exact List.forall_mem_cons.2 ⟨rfl, ih h⟩
    | anyPath => exact List.forall_mem_cons.2 ⟨rfl, ih h⟩
    | _ => cases h

/-! ## Below any directories -/

/-- Behind a `**`, a pattern goes on at the start of a component or at the end of the text. -/
theorem next_of_afterPath (h : afterPath strictDots next start cs = true) :
    (∃ start, next start [] = true) ∨ next true cs = true ∨
      ∃ pre suf, cs = pre ++ '/' :: suf ∧ next true suf = true := by
  suffices hgo : (∃ start, next start [] = true) ∨ (start = true ∧ next true cs = true) ∨
      ∃ pre suf, cs = pre ++ '/' :: suf ∧ next true suf = true from hgo.imp_right (.imp_left (·.2))
  induction cs generalizing start with
  | nil => exact .inl ⟨start, h⟩
  | cons c cs ih =>
    simp only [afterPath, Bool.or_eq_true, Bool.and_eq_true] at h
    rcases h with ⟨rfl, h⟩ | ⟨-, h⟩
    · exact .inr (.inl ⟨rfl, h⟩)
    · rcases ih h with hend | ⟨hc, hnext⟩ | ⟨pre, suf, rfl, hnext⟩
      · exact .inl hend
      · rw [beq_iff_eq] at hc
        exact .inr (.inr ⟨[], cs, by rw [hc]; rfl, hnext⟩)
      · exact .inr (.inr ⟨c :: pre, suf, rfl, hnext⟩)

/-- What stands behind the last slash. -/
theorem eq_of_append_slash {a b x y : List Char} (hx : '/' ∉ x) (hy : '/' ∉ y)
    (h : a ++ '/' :: x = b ++ '/' :: y) : x = y := by
  have hpieces := congrArg (Text.pieces '/') h
  rw [Text.pieces_append_sep, Text.pieces_append_sep, Text.pieces_of_not_mem hx,
    Text.pieces_of_not_mem hy] at hpieces
  simpa using (List.append_inj' hpieces rfl).2

/-- With `**/` in front, a pattern without slashes matches a path as it matches the last name. -/
theorem matchFrom_anyPath_name (h : Spells true cs ts) (hne : cs ≠ []) (hs : '/' ∉ cs)
    (hn : '/' ∉ n.toList) (above : List String) :
    matchFrom false (.anyPath :: ts) true (Path.slashed (above ++ [n])).toList
      = matchFrom false ts true n.toList := by
  have hts : ts ≠ [] := by
    rintro rfl
    cases h
    exact hne rfl
  rcases endsPart_of_spells h hs with ⟨-, rfl⟩ | hpart
  · have hall (text : List Char) : matchFrom false [.anyPath, .anyPath] true text = true :=
      afterPath_here (matchFrom_anyPath true text)
    rw [hall, matchFrom_anyPath]
  rw [Bool.eq_iff_iff]
  constructor
  · intro hmatch
    rcases next_of_afterPath hmatch with ⟨start, hend⟩ | hwhole | ⟨pre, suf, htext, hsuf⟩
    · exact matchFrom_wild (isWild_of_matchFrom_nil hend) hts hn true
    · have hnot := not_mem_slash_of_matchFrom hpart hwhole
      rcases Path.toList_slashed_concat above n with hlast | ⟨front, hlast⟩
      · rwa [hlast] at hwhole
      · simp [hlast] at hnot
    · have hsufs := not_mem_slash_of_matchFrom hpart hsuf
      rcases Path.toList_slashed_concat above n with hlast | ⟨front, hlast⟩
      · simp [← hlast, htext] at hn
      · rwa [eq_of_append_slash hn hsufs (hlast.symm.trans htext)]
  · intro hname
    rcases Path.toList_slashed_concat above n with hlast | ⟨front, hlast⟩
    · rw [hlast]
      exact afterPath_here hname
    · rw [hlast]
      exact afterPath_skip front (afterPath_here hname)

end Glob

namespace Exclusion

open BulkSuppress.Path (IsName)

variable {name body : String} {negated dirOnly : Bool} {q r : Pattern}

/-! ## With marks -/

/-- The text of a pattern with a `!` in front and a slash behind it, if there are to be any. -/
def marked (negated dirOnly : Bool) (body : String) : String :=
  (if negated then "!" else "") ++ body ++ if dirOnly then "/" else ""

theorem isOf_marked (hne : body ≠ "") (hbang : body.toList.head? ≠ some '!')
    (hfront : body.toList.head? ≠ some '/') (hback : body.toList.getLast? ≠ some '/')
    (negated dirOnly : Bool) :
    Form.IsOf ⟨negated, false, dirOnly, body.toList⟩ (marked negated dirOnly body) := by
  have hne' : body.toList ≠ [] := fun e => hne (String.toList_inj.1 e)
  obtain ⟨c, cs, hc⟩ := List.exists_cons_of_ne_nil hne'
  rw [hc] at hbang hfront
  refine ⟨?_, fun _ => ?_, fun _ => ?_, fun _ => hback⟩
  · cases negated <;> cases dirOnly <;> simp [marked, mark, Form.unsigned]
  · simpa [Form.unsigned, mark, hc] using hbang
  · simpa [hc] using hfront

/-- A pattern is read from its text with marks. -/
theorem parse_marked (hne : body ≠ "") (hbang : body.toList.head? ≠ some '!')
    (hfront : body.toList.head? ≠ some '/') (hback : body.toList.getLast? ≠ some '/') :
    Pattern.parse (marked negated dirOnly body) = .ok q ↔
      ∃ ts, Glob.Spells true body.toList ts ∧
        q = { source := marked negated dirOnly body, glob := ⟨body, ts⟩, negated, dirOnly,
              wholePath := body.toList.contains '/' } := by
  rw [(isOf_marked hne hbang hfront hback negated dirOnly).parse_eq, String.ofList_toList]
  constructor
  · intro h
    cases hg : Glob.parse body with
    | error e => simp [hg, Except.map] at h
    | ok glob =>
      rw [hg] at h
      cases h
      obtain ⟨rfl, hspells⟩ := Glob.parse_eq_ok_iff.1 hg
      exact ⟨glob.tokens, hspells, by simp⟩
  · rintro ⟨ts, hspells, rfl⟩
    have hg : Glob.parse body = .ok ⟨body, ts⟩ := Glob.parse_eq_ok_iff.2 ⟨rfl, hspells⟩
    simp [hg, Except.map]

/-- A pattern without slashes is for names. -/
theorem parse_name (hne : name ≠ "") (hslash : '/' ∉ name.toList)
    (hbang : name.toList.head? ≠ some '!') :
    Pattern.parse (marked negated dirOnly name) = .ok q ↔
      ∃ ts, Glob.Spells true name.toList ts ∧
        q = { source := marked negated dirOnly name, glob := ⟨name, ts⟩, negated, dirOnly,
              wholePath := false } := by
  have hfront : name.toList.head? ≠ some '/' := fun h => hslash (List.mem_of_head? h)
  have hback : name.toList.getLast? ≠ some '/' := fun h => hslash (List.mem_of_getLast? h)
  have hwhole : name.toList.contains '/' = false := by simpa using hslash
  rw [parse_marked hne hbang hfront hback, hwhole]

/-- With `**/` in front, it is for whole paths. -/
theorem parse_anyDepth (hne : name ≠ "") (hslash : '/' ∉ name.toList) :
    Pattern.parse (marked negated dirOnly ("**/" ++ name)) = .ok r ↔
      ∃ ts, Glob.Spells true name.toList ts ∧
        r = { source := marked negated dirOnly ("**/" ++ name),
              glob := ⟨"**/" ++ name, .anyPath :: ts⟩, negated, dirOnly, wholePath := true } := by
  have htext : ("**/" ++ name).toList = '*' :: '*' :: '/' :: name.toList := by
    simp [String.toList_append]
  have hne' : name.toList ≠ [] := fun e => hne (String.toList_inj.1 e)
  have hback : ("**/" ++ name).toList.getLast? ≠ some '/' := by
    obtain ⟨c, cs, hc⟩ := List.exists_cons_of_ne_nil hne'
    intro h
    rw [htext, hc, List.getLast?_cons_cons, List.getLast?_cons_cons, List.getLast?_cons_cons] at h
    exact hslash (hc ▸ List.mem_of_getLast? h)
  have hwhole : ("**/" ++ name).toList.contains '/' = true := by simp [htext]
  rw [parse_marked (by intro e; simp [e] at htext) (by simp [htext]) (by simp [htext]) hback,
    hwhole, htext]
  constructor
  · rintro ⟨ts, hspells, rfl⟩
    obtain ⟨us, rfl, hus⟩ := Glob.spells_anyPath_iff.1 hspells
    exact ⟨us, hus, rfl⟩
  · rintro ⟨ts, hspells, rfl⟩
    exact ⟨_, Glob.spells_anyPath_iff.2 ⟨ts, rfl, hspells⟩, rfl⟩

/-- The two patterns match the same paths: on the way to each, they are tried on the same names. -/
theorem isMatch_anyDepth {ts : List Glob.Token} {path : Path} {p q : Pattern}
    (hspells : Glob.Spells true name.toList ts) (hne : name ≠ "") (hslash : '/' ∉ name.toList)
    (hp : p.glob.tokens = ts ∧ p.wholePath = false)
    (hq : q.glob.tokens = .anyPath :: ts ∧ q.wholePath = true) (hdir : p.dirOnly = q.dirOnly) :
    p.isMatch path.names = q.isMatch path.names := by
  have hne' : name.toList ≠ [] := fun e => hne (String.toList_inj.1 e)
  have hsubject {above : List String} {n : String} {rest : List String}
      (hsplit : path.names = above ++ n :: rest) :
      p.glob.isMatch false (Pattern.subject p.wholePath above n)
        = q.glob.isMatch false (Pattern.subject q.wholePath above n) := by
    have hmem : n ∈ path.names := by
      rw [hsplit]
      exact List.mem_append_right _ List.mem_cons_self
    have hn : IsName n := Path.isName_of_mem_names hmem
    rw [hp.2, hq.2, Glob.isMatch_eq, Glob.isMatch_eq, hp.1, hq.1]
    exact (Glob.matchFrom_anyPath_name hspells hne' hslash hn.2.2.2 above).symm
  rw [Bool.eq_iff_iff, Pattern.isMatch_iff, Pattern.isMatch_iff, hdir]
  constructor
  · rintro ⟨above, n, rest, hsplit, hd, hmatch⟩
    exact ⟨above, n, rest, hsplit, hd, hsubject hsplit ▸ hmatch⟩
  · rintro ⟨above, n, rest, hsplit, hd, hmatch⟩
    exact ⟨above, n, rest, hsplit, hd, hsubject hsplit ▸ hmatch⟩

/-- Of two patterns that match the same paths, with the same mark, either can stand in a filter. -/
theorem Filter.excludes_concat_congr {p q : Pattern} {path : Path} (f : Filter)
    (hnegated : p.negated = q.negated) (hmatch : p.isMatch path.names = q.isMatch path.names) :
    excludes ⟨f.patterns ++ [p]⟩ path = excludes ⟨f.patterns ++ [q]⟩ path := by
  rw [excludes, excludes, excludesNames_concat, excludesNames_concat, hnegated, hmatch]

/--
A pattern for names without a `!` of its own and the same pattern with `**/` in front are both
valid or neither is, whether they are written with a `!` and with a slash at the end or without.
They match the same paths, and it makes no difference which of them is added to a filter.
-/
theorem matches_at_any_depth (hne : name ≠ "") (hslash : '/' ∉ name.toList)
    (hbang : name.toList.head? ≠ some '!') (negated dirOnly : Bool) :
    ((∃ q, Pattern.parse (marked negated dirOnly name) = .ok q) ↔
      ∃ r, Pattern.parse (marked negated dirOnly ("**/" ++ name)) = .ok r) ∧
    (∀ q r, Pattern.parse (marked negated dirOnly name) = .ok q →
      Pattern.parse (marked negated dirOnly ("**/" ++ name)) = .ok r →
        ∀ path : Path, q.isMatch path.names = r.isMatch path.names) ∧
    ∀ (f : Filter) (path : Path),
      (f.add (marked negated dirOnly name)).toOption.map (·.excludes path)
        = (f.add (marked negated dirOnly ("**/" ++ name))).toOption.map (·.excludes path) := by
  have hvalid : (∃ q, Pattern.parse (marked negated dirOnly name) = .ok q) ↔
      ∃ r, Pattern.parse (marked negated dirOnly ("**/" ++ name)) = .ok r := by
    simp only [parse_name hne hslash hbang, parse_anyDepth hne hslash]
    exact ⟨fun ⟨_, ts, h, _⟩ => ⟨_, ts, h, rfl⟩, fun ⟨_, ts, h, _⟩ => ⟨_, ts, h, rfl⟩⟩
  have hsame (q r : Pattern) (hq : Pattern.parse (marked negated dirOnly name) = .ok q)
      (hr : Pattern.parse (marked negated dirOnly ("**/" ++ name)) = .ok r) :
      q.negated = r.negated ∧ ∀ path : Path, q.isMatch path.names = r.isMatch path.names := by
    obtain ⟨ts, hts, rfl⟩ := (parse_name hne hslash hbang).1 hq
    obtain ⟨us, hus, rfl⟩ := (parse_anyDepth hne hslash).1 hr
    cases hts.unique hus
    exact ⟨rfl, fun path => isMatch_anyDepth hts hne hslash ⟨rfl, rfl⟩ ⟨rfl, rfl⟩ rfl⟩
  refine ⟨hvalid, fun q r hq hr => (hsame q r hq hr).2, fun f path => ?_⟩
  cases hq : Pattern.parse (marked negated dirOnly name) with
  | error e =>
    cases hr : Pattern.parse (marked negated dirOnly ("**/" ++ name)) with
    | error e' =>
      rw [Filter.add_of_parse_error f hq, Filter.add_of_parse_error f hr]
      rfl
    | ok r =>
      obtain ⟨q, hq'⟩ := hvalid.2 ⟨r, hr⟩
      rw [hq] at hq'
      cases hq'
  | ok q =>
    obtain ⟨r, hr⟩ := hvalid.1 ⟨q, hq⟩
    obtain ⟨hnegated, hmatch⟩ := hsame q r hq hr
    rw [Filter.add_of_parse_ok f hq, Filter.add_of_parse_ok f hr]
    exact congrArg some (Filter.excludes_concat_congr f hnegated (hmatch path))

/-- The directories of a name with wildcards are matched at any depth, with `**/` or without. -/
theorem matches_at_any_depth_builds :
    "b*[0-9]" ≠ "" ∧ '/' ∉ "b*[0-9]".toList ∧ "b*[0-9]".toList.head? ≠ some '!' ∧
      ∃ q r, Pattern.parse "!b*[0-9]/" = .ok q ∧ Pattern.parse "!**/b*[0-9]/" = .ok r ∧
        q.isMatch (Path.names ⟨"a/b/build.7/x.js"⟩) = true ∧
        r.isMatch (Path.names ⟨"a/b/build.7/x.js"⟩) = true ∧
        q.isMatch (Path.names ⟨"a/b/build.7"⟩) = false ∧
        r.isMatch (Path.names ⟨"a/b/build.7"⟩) = false := by
  have hne : "b*[0-9]" ≠ "" := by decide
  have hslash : '/' ∉ "b*[0-9]".toList := by decide
  have hbang : "b*[0-9]".toList.head? ≠ some '!' := by decide
  obtain ⟨hvalid, hsame, -⟩ := matches_at_any_depth hne hslash hbang true true
  have hq : Pattern.parse "!b*[0-9]/" = .ok
      { source := "!b*[0-9]/", negated := true, dirOnly := true, wholePath := false,
        glob := ⟨"b*[0-9]", [.literal 'b', .anySequence, .oneOf [⟨'0', '9'⟩]]⟩ } := by
    decide +kernel
  obtain ⟨r, hr⟩ := hvalid.1 ⟨_, hq⟩
  refine ⟨hne, hslash, hbang, _, r, hq, hr, ?_⟩
  rw [← hsame _ r hq hr, ← hsame _ r hq hr]
  decide

end Exclusion
end BulkSuppress
