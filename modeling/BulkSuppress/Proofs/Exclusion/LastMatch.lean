import Mathlib.Data.List.Induction
import BulkSuppress.Proofs.Exclusion.Defaults

/-
  How a filter decides. A pattern is written with a glob between marks (`Form`), and says of a path
  whether the glob matches it or a directory above it (`Matches`). A filter is made from a list of
  patterns and takes more on request, one that has to be valid or the valid ones of several. After
  any requests, the last pattern that matches a path decides about it: the path is excluded if that
  pattern has no `!`, and left in if it has one or if no pattern matches (`last_match_decides`). A
  request that is refused could as well not have been made.

  Decisions hold further down. A pattern that matches a path matches whatever is put behind the
  path, since it is tried on every directory above. So the pattern that excludes a path is there
  for everything below, and only a negated pattern that matches further down and not the path
  itself can have the last word (`excludes_descends`).
-/

namespace BulkSuppress.Exclusion

/-! ## Patterns as they are written -/

/-- A mark, if it is there. -/
def mark (c : Char) (there : Bool) : List Char := if there then [c] else []

/-- The marks of a pattern, and the glob between them. -/
structure Form where
  /-- There is a `!` in front. -/
  negated : Bool
  /-- There is a slash in front of the glob. -/
  anchored : Bool
  /-- There is a slash behind the glob. -/
  dirOnly : Bool
  body : List Char

namespace Form

variable {w : Form} {source : String}

/-- The text behind the `!`. -/
def unsigned (w : Form) : List Char :=
  mark '/' w.anchored ++ (w.body ++ mark '/' w.dirOnly)

/-- A pattern is written in the form, in which each mark is taken as one where it can be. -/
structure IsOf (w : Form) (source : String) : Prop where
  text : source.toList = mark '!' w.negated ++ w.unsigned
  bang : w.negated = false → w.unsigned.head? ≠ some '!'
  front : w.anchored = false → (w.body ++ mark '/' w.dirOnly).head? ≠ some '/'
  back : w.dirOnly = false → w.body.getLast? ≠ some '/'

theorem stripFront_mark {c : Char} {there : Bool} {cs : List Char}
    (h : there = false → cs.head? ≠ some c) : stripFront c (mark c there ++ cs) = (there, cs) := by
  cases there with
  | true => simp [mark, stripFront]
  | false =>
    cases cs with
    | nil => rfl
    | cons d cs =>
      have hd : d ≠ c := by simpa using h rfl
      simp [mark, stripFront, hd]

theorem stripBack_mark {c : Char} {there : Bool} {cs : List Char}
    (h : there = false → cs.getLast? ≠ some c) :
    stripBack c (cs ++ mark c there) = (there, cs) := by
  cases there with
  | true => simp [mark, stripBack]
  | false => simp [mark, stripBack, h rfl]

theorem exists_mark_append (c : Char) (cs : List Char) :
    ∃ there rest, cs = mark c there ++ rest ∧ (there = false → rest.head? ≠ some c) := by
  by_cases h : cs.head? = some c
  · obtain ⟨rest, rfl⟩ := List.head?_eq_some_iff.1 h
    exact ⟨true, rest, rfl, nofun⟩
  · exact ⟨false, cs, rfl, fun _ => h⟩

theorem exists_append_mark (c : Char) (cs : List Char) :
    ∃ there rest, cs = rest ++ mark c there ∧ (there = false → rest.getLast? ≠ some c) := by
  by_cases h : cs.getLast? = some c
  · obtain ⟨rest, rfl⟩ := List.getLast?_eq_some_iff.1 h
    exact ⟨true, rest, rfl, nofun⟩
  · exact ⟨false, cs, (List.append_nil cs).symm, fun _ => h⟩

/-- Every text is written in some form. -/
theorem exists_isOf (source : String) : ∃ w : Form, w.IsOf source := by
  obtain ⟨negated, afterBang, hbang, bang⟩ := exists_mark_append '!' source.toList
  obtain ⟨anchored, afterSlash, hfront, front⟩ := exists_mark_append '/' afterBang
  obtain ⟨dirOnly, body, hback, back⟩ := exists_append_mark '/' afterSlash
  subst hfront hback
  exact ⟨⟨negated, anchored, dirOnly, body⟩, hbang, bang, front, back⟩

/-- A pattern is read by its form. -/
theorem IsOf.parse_eq (h : w.IsOf source) :
    Pattern.parse source = (Glob.parse (String.ofList w.body)).map fun glob =>
      { source, glob, negated := w.negated, dirOnly := w.dirOnly,
        wholePath := w.anchored || w.body.contains '/' } := by
  have hback : stripBack '/' (w.body ++ mark '/' w.dirOnly) = (w.dirOnly, w.body) :=
    stripBack_mark h.back
  have hfront : stripFront '/' w.unsigned = (w.anchored, w.body ++ mark '/' w.dirOnly) :=
    stripFront_mark h.front
  have hbang : stripFront '!' source.toList = (w.negated, w.unsigned) := by
    rw [h.text]
    exact stripFront_mark h.bang
  simp only [Pattern.parse, hbang, hfront, hback]

/--
The glob matches a path with the names, or a directory above it. It is matched with a whole path
if the form has a slash other than the one at the end, and with a single name otherwise.
-/
def Reaches (w : Form) (glob : Glob) (names : List String) : Prop :=
  ∃ above n rest, names = above ++ n :: rest ∧ (w.dirOnly = true → rest ≠ []) ∧
    glob.isMatch false
      (if w.anchored = true ∨ '/' ∈ w.body then Path.slashed (above ++ [n]) else n) = true

end Form

/-- There is a glob between the marks of the pattern. -/
def IsValid (source : String) : Prop :=
  ∃ w : Form, w.IsOf source ∧ ∃ glob, Glob.parse (String.ofList w.body) = .ok glob

/-- The pattern is valid and matches the path with the names. -/
def Matches (source : String) (names : List String) : Prop :=
  ∃ w : Form, w.IsOf source ∧
    ∃ glob, Glob.parse (String.ofList w.body) = .ok glob ∧ w.Reaches glob names

variable {source : String} {names : List String} {p : Pattern}

namespace Pattern

theorem matchesDirectory_iff (p : Pattern) (names : List String) :
    p.matchesDirectory names = true ↔ ∃ above n rest, names = above ++ n :: rest ∧
      p.glob.isMatch false (subject p.wholePath above n) = true := by
  constructor
  · intro h
    induction names using List.reverseRecOn with
    | nil => simp [matchesDirectory, subjects] at h
    | append_singleton names n ih =>
      rw [matchesDirectory_concat, Bool.or_eq_true] at h
      rcases h with h | h
      · obtain ⟨above, m, rest, rfl, hm⟩ := ih h
        exact ⟨above, m, rest ++ [n], by simp, hm⟩
      · exact ⟨names, n, [], rfl, h⟩
  · rintro ⟨above, n, rest, rfl, hn⟩
    induction rest using List.reverseRecOn with
    | nil => rw [matchesDirectory_concat, hn, Bool.or_true]
    | append_singleton rest m ih =>
      rw [← List.cons_append, ← List.append_assoc, matchesDirectory_concat, ih, Bool.true_or]

/-- A pattern is tried on the path and on every directory above it. -/
theorem isMatch_iff (p : Pattern) (names : List String) :
    p.isMatch names = true ↔ ∃ above n rest, names = above ++ n :: rest ∧
      (p.dirOnly = true → rest ≠ []) ∧
      p.glob.isMatch false (subject p.wholePath above n) = true := by
  cases names using List.reverseRecOn with
  | nil => simp [isMatch, subjects]
  | append_singleton names m =>
    rw [isMatch_concat, Bool.or_eq_true, Bool.and_eq_true, Bool.not_eq_true',
      matchesDirectory_iff]
    constructor
    · rintro (⟨above, n, rest, rfl, hn⟩ | ⟨hd, hm⟩)
      · exact ⟨above, n, rest ++ [m], by simp, by simp, hn⟩
      · exact ⟨names, m, [], rfl, by simp [hd], hm⟩
    · rintro ⟨above, n, rest, hsplit, hd, hn⟩
      cases rest using List.reverseRecOn with
      | nil =>
        obtain ⟨rfl, hlast⟩ := List.append_inj' hsplit rfl
        cases hlast
        exact .inr ⟨by simpa using hd, hn⟩
      | append_singleton rest k =>
        rw [← List.cons_append, ← List.append_assoc] at hsplit
        obtain ⟨rfl, -⟩ := List.append_inj' hsplit rfl
        exact .inl ⟨above, n, rest, rfl, hn⟩

/-- What matches a path matches everything that is put behind it. -/
theorem isMatch_append_right (h : p.isMatch names = true) (rest : List String) :
    p.isMatch (names ++ rest) = true := by
  obtain ⟨above, n, behind, rfl, hd, hn⟩ := (isMatch_iff p names).1 h
  refine (isMatch_iff p _).2 ⟨above, n, behind ++ rest, by simp, fun hdir => ?_, hn⟩
  exact List.append_ne_nil_of_left_ne_nil (hd hdir) rest

theorem exists_parse_iff : (∃ p, parse source = .ok p) ↔ IsValid source := by
  constructor
  · rintro ⟨p, hp⟩
    obtain ⟨w, hw⟩ := Form.exists_isOf source
    rw [hw.parse_eq] at hp
    cases hg : Glob.parse (String.ofList w.body) with
    | error e => simp [hg, Except.map] at hp
    | ok glob => exact ⟨w, hw, glob, hg⟩
  · rintro ⟨w, hw, glob, hg⟩
    exact ⟨_, by rw [hw.parse_eq, hg]; rfl⟩

/-- What is read from a text matches what the text says. -/
theorem isMatch_iff_of_parse (h : parse source = .ok p) (names : List String) :
    p.isMatch names = true ↔ Matches source names := by
  have hform {w : Form} {glob : Glob} (hw : w.IsOf source)
      (hg : Glob.parse (String.ofList w.body) = .ok glob) :
      p.isMatch names = true ↔ w.Reaches glob names := by
    rw [hw.parse_eq, hg] at h
    cases h
    simp only [isMatch_iff, Form.Reaches, subject, Bool.or_eq_true, List.contains_iff_mem]
  constructor
  · intro hmatch
    obtain ⟨w, hw, glob, hg⟩ := exists_parse_iff.1 ⟨p, h⟩
    exact ⟨w, hw, glob, hg, (hform hw hg).1 hmatch⟩
  · rintro ⟨w, hw, glob, hg, hreach⟩
    exact (hform hw hg).2 hreach

end Pattern

/-! ## The last pattern that matches -/

/-- The last of the patterns that match has no `!`. -/
def LastExcludes (sources : List String) (names : List String) : Prop :=
  ∃ before source later, sources = before ++ source :: later ∧ Matches source names ∧
    (∀ s ∈ later, ¬ Matches s names) ∧ source.toList.head? ≠ some '!'

theorem lastExcludes_concat (sources : List String) (source : String) (names : List String) :
    LastExcludes (sources ++ [source]) names ↔
      Matches source names ∧ source.toList.head? ≠ some '!' ∨
        ¬ Matches source names ∧ LastExcludes sources names := by
  constructor
  · rintro ⟨before, s, later, hsplit, hs, hlater, hbang⟩
    cases later using List.reverseRecOn with
    | nil =>
      obtain ⟨-, hlast⟩ := List.append_inj' hsplit rfl
      cases hlast
      exact .inl ⟨hs, hbang⟩
    | append_singleton later t =>
      rw [← List.cons_append, ← List.append_assoc] at hsplit
      obtain ⟨rfl, hlast⟩ := List.append_inj' hsplit rfl
      cases hlast
      refine .inr ⟨hlater source (by simp), before, s, later, rfl, hs, fun u hu => ?_, hbang⟩
      exact hlater u (List.mem_append_left _ hu)
  · rintro (⟨hs, hbang⟩ | ⟨hs, before, t, later, rfl, ht, hlater, hbang⟩)
    · exact ⟨sources, source, [], rfl, hs, by simp, hbang⟩
    · refine ⟨before, t, later ++ [source], by simp, ht, fun u hu => ?_, hbang⟩
      rcases List.mem_append.1 hu with hu | hu
      · exact hlater u hu
      · rw [List.mem_singleton.1 hu]
        exact hs

namespace Filter

variable {f g : Filter}

theorem excludesNames_concat (ps : List Pattern) (p : Pattern) (names : List String) :
    excludesNames ⟨ps ++ [p]⟩ names
      = if p.isMatch names then !p.negated else excludesNames ⟨ps⟩ names := by
  simp [excludesNames]

/-- Of the patterns that a list of texts gives, the last that matches decides. -/
theorem excludesNames_iff (sources : List String) (names : List String) :
    excludesNames ⟨sources.filterMap fun source => (Pattern.parse source).toOption⟩ names = true ↔
      LastExcludes sources names := by
  induction sources using List.reverseRecOn with
  | nil => simp [excludesNames, LastExcludes]
  | append_singleton sources source ih =>
    rw [List.filterMap_append, lastExcludes_concat, ← ih]
    cases hp : Pattern.parse source with
    | error e =>
      have hnot : ¬ Matches source names := by
        rintro ⟨w, hw, glob, hg, -⟩
        rw [hw.parse_eq, hg] at hp
        cases hp
      simp [hp, Except.toOption, hnot]
    | ok p =>
      have hlast : [source].filterMap (fun source => (Pattern.parse source).toOption) = [p] := by
        simp [hp, Except.toOption]
      rw [hlast, excludesNames_concat, ← Pattern.isMatch_iff_of_parse hp,
        Pattern.negated_of_parse hp]
      cases p.isMatch names <;> simp

/-! ## Requests -/

/-- A request to a filter to take patterns. -/
inductive Request where
  /-- The pattern, which has to be valid. -/
  | add (source : String)
  /-- The valid ones of the patterns. -/
  | addValid (sources : List String)

/-- The patterns that a request is about. -/
def Request.sources : Request → List String
  | .add source => [source]
  | .addValid sources => sources

/-- What a request makes of a filter, and why it is refused if it is. -/
def serve (f : Filter) : Request → Filter × Option Failure
  | .add source =>
    match f.add source with
    | .ok g => (g, none)
    | .error e => (f, some e)
  | .addValid sources => ((f.addValid sources).value, none)

/-- What requests make of a filter, one after the other. -/
def after (f : Filter) (requests : List Request) : Filter :=
  requests.foldl (fun f request => (f.serve request).1) f

theorem add_of_parse_ok (f : Filter) (h : Pattern.parse source = .ok p) :
    f.add source = .ok ⟨f.patterns ++ [p]⟩ := by
  rw [add, h]

theorem add_of_parse_error (f : Filter) {e : Glob.SyntaxError}
    (h : Pattern.parse source = .error e) :
    f.add source = .error (.pattern (.invalid source e)) := by
  rw [add, h]

/-- A request adds the valid ones of its patterns at the end, also if it is refused. -/
theorem patterns_serve (f : Filter) (request : Request) :
    (f.serve request).1.patterns = f.patterns ++
      request.sources.filterMap fun source => (Pattern.parse source).toOption := by
  cases request with
  | addValid sources => exact patterns_addValid f sources
  | add source =>
    cases hp : Pattern.parse source with
    | error e => simp [serve, add_of_parse_error f hp, Request.sources, hp, Except.toOption]
    | ok p => simp [serve, add_of_parse_ok f hp, Request.sources, hp, Except.toOption]

theorem patterns_after (f : Filter) (requests : List Request) :
    (f.after requests).patterns = f.patterns ++
      (requests.flatMap Request.sources).filterMap fun source =>
        (Pattern.parse source).toOption := by
  induction requests generalizing f with
  | nil => simp [after]
  | cons request requests ih =>
    have hrest := ih (f.serve request).1
    rw [patterns_serve, List.append_assoc, ← List.filterMap_append] at hrest
    exact hrest

/-- A request for a single pattern is refused exactly if the pattern is not valid. -/
theorem serve_add_snd (f : Filter) (source : String) :
    (f.serve (.add source)).2 = none ↔ IsValid source := by
  rw [← Pattern.exists_parse_iff]
  cases hp : Pattern.parse source with
  | error e => simp [serve, add_of_parse_error f hp]
  | ok p => simp [serve, add_of_parse_ok f hp]

/-- A filter that refuses a request is left as it was. -/
theorem serve_of_refused {request : Request} (h : (f.serve request).2 ≠ none) :
    (f.serve request).1 = f := by
  cases request with
  | addValid sources => exact absurd rfl h
  | add source =>
    cases hp : Pattern.parse source with
    | error e => simp [serve, add_of_parse_error f hp]
    | ok p => simp [serve, add_of_parse_ok f hp] at h

theorem foldlM_add_eq_ok_iff (sources : List String) (f g : Filter) :
    sources.foldlM add f = .ok g ↔ (∀ source ∈ sources, IsValid source) ∧
      g.patterns = f.patterns ++ sources.filterMap fun source =>
        (Pattern.parse source).toOption := by
  induction sources generalizing f with
  | nil =>
    obtain ⟨ps⟩ := f
    obtain ⟨qs⟩ := g
    simp [pure, Except.pure, eq_comm]
  | cons source sources ih =>
    rw [List.foldlM_cons, List.forall_mem_cons, ← Pattern.exists_parse_iff]
    cases hp : Pattern.parse source with
    | error e =>
      rw [add_of_parse_error f hp]
      simp [bind, Except.bind]
    | ok p =>
      rw [add_of_parse_ok f hp, List.filterMap_cons_some (by rw [hp]; rfl)]
      refine (ih _).trans ?_
      simp

/-- A filter is made from valid patterns only, and has all of them. -/
theorem ofSources_eq_ok_iff {sources : List String} : ofSources sources = .ok g ↔
    (∀ source ∈ sources, IsValid source) ∧
      g = ⟨sources.filterMap fun source => (Pattern.parse source).toOption⟩ := by
  obtain ⟨qs⟩ := g
  rw [ofSources, foldlM_add_eq_ok_iff]
  simp

/--
A filter can be made exactly from valid patterns. After any requests for more, a path is excluded
exactly if some of all these patterns matches it and the last one that does has no `!`. A request
for one pattern is refused exactly if it is not valid, and a request that is refused makes no
difference to any decision, then or after further requests.
-/
theorem last_match_decides (sources : List String) :
    ((∃ f, ofSources sources = .ok f) ↔ ∀ source ∈ sources, IsValid source) ∧
    ∀ f, ofSources sources = .ok f → ∀ requests : List Request,
      (∀ (path : Path) (names : List String), path.components = names.map .name →
        ((f.after requests).excludes path = true ↔
          LastExcludes (sources ++ requests.flatMap Request.sources) names)) ∧
      (∀ source, ((f.after requests).serve (.add source)).2 = none ↔ IsValid source) ∧
      ∀ request, ((f.after requests).serve request).2 ≠ none → ∀ later path,
        (f.after (requests ++ request :: later)).excludes path
          = (f.after (requests ++ later)).excludes path := by
  refine ⟨⟨fun ⟨f, hf⟩ => (ofSources_eq_ok_iff.1 hf).1, fun h =>
    ⟨_, ofSources_eq_ok_iff.2 ⟨h, rfl⟩⟩⟩, fun f hf requests => ⟨?_, ?_, ?_⟩⟩
  · intro path names hpath
    have hpatterns : f.after requests = ⟨(sources ++ requests.flatMap Request.sources).filterMap
        fun source => (Pattern.parse source).toOption⟩ := by
      have h := patterns_after f requests
      rw [(ofSources_eq_ok_iff.1 hf).2, ← List.filterMap_append] at h
      rw [(ofSources_eq_ok_iff.1 hf).2, ← h]
    rw [excludes, Path.names, hpath, Path.names_map_name, hpatterns, excludesNames_iff]
  · exact fun source => serve_add_snd _ source
  · intro request hrefused later path
    have hsame := serve_of_refused hrefused
    have hleft : f.after (requests ++ request :: later) = f.after (requests ++ later) := by
      rw [after, after, List.foldl_append, List.foldl_append, List.foldl_cons]
      exact congrArg (fun g => later.foldl (fun f request => (f.serve request).1) g) hsame
    rw [hleft]

/-! ## Output that is left out but for its scripts -/

/-- The patterns that the filter is made from. -/
def outputSources : List String := ["dist", "*.log"]

/-- The filter made from them. -/
def outputFilter : Filter :=
  ⟨outputSources.filterMap fun source => (Pattern.parse source).toOption⟩

/-- Patterns added later: two are not valid, one takes scripts back in, one is for directories. -/
def outputRequests : List Request :=
  [.addValid ["**a", "!dist/*.js"], .add "/dist/x.js/"]

theorem ofSources_output : ofSources outputSources = .ok outputFilter := by cbv

theorem excludes_output : outputFilter.excludes ⟨"app/x.log"⟩ = true ∧
    (outputFilter.after outputRequests).excludes ⟨"dist"⟩ = true ∧
    (outputFilter.after outputRequests).excludes ⟨"dist/a.js"⟩ = false ∧
    (outputFilter.after outputRequests).excludes ⟨"dist/x.js/y"⟩ = true := by
  decide +kernel

/--
A script in `dist` is taken back in, and what is in a directory of a script's name is left out
again. An open bracket is refused, which changes nothing.
-/
theorem last_match_decides_output :
    (∀ source ∈ outputSources, IsValid source) ∧
      Path.components ⟨"dist/a.js"⟩ = ["dist", "a.js"].map .name ∧
      ¬ LastExcludes ["dist", "*.log", "**a", "!dist/*.js", "/dist/x.js/"] ["dist", "a.js"] ∧
      Path.components ⟨"dist/x.js/y"⟩ = ["dist", "x.js", "y"].map .name ∧
      LastExcludes ["dist", "*.log", "**a", "!dist/*.js", "/dist/x.js/"] ["dist", "x.js", "y"] ∧
      ((outputFilter.after []).serve (.add "[")).2 ≠ none ∧
      (outputFilter.after (.add "[" :: outputRequests)).excludes ⟨"dist/a.js"⟩ = false := by
  obtain ⟨hmade, hfilter⟩ := last_match_decides outputSources
  obtain ⟨hscript, -, -⟩ := hfilter _ ofSources_output outputRequests
  have hfile : Path.components ⟨"dist/a.js"⟩ = ["dist", "a.js"].map .name := by decide
  have hinside : Path.components ⟨"dist/x.js/y"⟩ = ["dist", "x.js", "y"].map .name := by
    decide
  obtain ⟨-, -, hleft, hout⟩ := excludes_output
  have hrefused : ((outputFilter.after []).serve (.add "[")).2 ≠ none := by decide +kernel
  refine ⟨hmade.1 ⟨_, ofSources_output⟩, hfile, fun h => ?_, hinside, (hscript _ _ hinside).1 hout,
    hrefused, ?_⟩
  · rw [(hscript _ _ hfile).2 h] at hleft
    cases hleft
  · have hsame := (hfilter _ ofSources_output []).2.2 _ hrefused outputRequests ⟨"dist/a.js"⟩
    exact hsame.trans hleft

/-! ## Below a path -/

/--
The decision about a path holds below it, but for patterns that take paths back in, that match
below, and that had no say about the path.
-/
theorem excludesNames_append_right {rest : List String} (h : f.excludesNames names = true)
    (hback : ∀ p ∈ f.patterns, p.negated = true → p.isMatch names = false →
      p.isMatch (names ++ rest) = false) :
    f.excludesNames (names ++ rest) = true := by
  obtain ⟨ps⟩ := f
  induction ps using List.reverseRecOn with
  | nil => cases h
  | append_singleton ps p ih =>
    rw [excludesNames_concat] at h ⊢
    have hlast := hback p (by simp)
    have hbefore (hps : excludesNames ⟨ps⟩ names = true) :
        excludesNames ⟨ps⟩ (names ++ rest) = true :=
      ih hps fun r hr => hback r (List.mem_append_left _ hr)
    cases hm : p.isMatch names with
    | true =>
      rw [hm, if_pos rfl] at h
      rw [p.isMatch_append_right hm, if_pos rfl, h]
    | false =>
      rw [hm, if_neg Bool.false_ne_true] at h
      cases hbelow : p.isMatch (names ++ rest) with
      | false => exact hbefore h
      | true =>
        have hkept : p.negated ≠ true := fun hneg => by simp [hlast hneg hm] at hbelow
        simp [hkept]

/--
What is excluded is excluded with everything that is put behind it, were it a directory, if no
pattern takes paths back in. Whatever the patterns, one that matches a path matches everything
behind it; so if something behind an excluded path is not excluded, a negated pattern matches it
that does not match the path itself.
-/
theorem excludes_descends {p q : Path} (hq : q.isAbsolute = false) (h : f.excludes p = true) :
    (f.hasNegations = false → f.excludes (p.join q) = true)
    ∧ (∀ pattern ∈ f.patterns, pattern.isMatch p.names = true →
        pattern.isMatch (p.join q).names = true)
    ∧ (f.excludes (p.join q) = false → ∃ pattern ∈ f.patterns, pattern.negated = true
        ∧ pattern.isMatch p.names = false ∧ pattern.isMatch (p.join q).names = true) := by
  rw [excludes, Path.names_join hq p]
  refine ⟨fun hneg => ?_, fun pattern _ hm => pattern.isMatch_append_right hm q.names,
    fun hback => ?_⟩
  · refine excludesNames_append_right h fun pattern hp hnegated => ?_
    exact absurd hnegated (List.any_eq_false.1 hneg pattern hp)
  · by_contra hnone
    push Not at hnone
    have hstill : f.excludesNames (p.names ++ q.names) = true :=
      excludesNames_append_right h fun pattern hp hneg hm =>
        Bool.eq_false_iff.2 (hnone pattern hp hneg hm)
    rw [hstill] at hback
    cases hback

/-- Everything behind a log is left out, and a script in an output directory is taken back in. -/
theorem excludes_descends_log :
    outputFilter.hasNegations = false ∧ outputFilter.excludes ⟨"app/x.log"⟩ = true
    ∧ outputFilter.excludes ⟨"app/x.log/a/b.js"⟩ = true
    ∧ ∃ pattern ∈ (outputFilter.after outputRequests).patterns, pattern.negated = true
      ∧ pattern.isMatch ["dist"] = false ∧ pattern.isMatch ["dist", "a.js"] = true := by
  have hneg : outputFilter.hasNegations = false := by cbv
  obtain ⟨hlog, hdist, hback, -⟩ := excludes_output
  have hbelow : (Path.mk "app/x.log").join ⟨"a/b.js"⟩ = ⟨"app/x.log/a/b.js"⟩ := by decide
  have hfile : (Path.mk "dist").join ⟨"a.js"⟩ = ⟨"dist/a.js"⟩ := by decide
  obtain ⟨hdown, -, -⟩ := excludes_descends (q := ⟨"a/b.js"⟩) (by decide) hlog
  obtain ⟨-, -, htaken⟩ := excludes_descends (q := ⟨"a.js"⟩) (by decide) hdist
  rw [hbelow] at hdown
  rw [hfile] at htaken
  exact ⟨hneg, hlog, hdown hneg, htaken hback⟩

end Filter
end BulkSuppress.Exclusion
