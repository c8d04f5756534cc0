import BulkSuppress.Proofs.Discovery.Canonical

/-
  The exclusions that every run starts with. Each is a pattern `**/n/**` for the name of a
  directory, and matches whatever lies in a directory of that name, at any depth and under
  directories of any names (`isMatch_everythingIn`). Further patterns come behind them and can
  only take a path back in with a `!`. So without a `!` nothing below such a directory is ever
  selected (`avoids_defaults`).
-/

namespace BulkSuppress

namespace Glob

variable {n : String} {cs : List Char} {start : Bool} {next : Bool → List Char → Bool}

/-- The tokens of `**/n/**`. -/
def everythingIn (n : String) : List Token :=
  .anyPath :: (n.toList.map .literal ++ [.literal '/', .anyPath])

/-- Whole components can be skipped up to any slash. -/
theorem afterPath_skip (pre : List Char) (h : afterPath false next true cs = true) :
    afterPath false next start (pre ++ '/' :: cs) = true := by
  induction pre generalizing start with
  | nil => simp [afterPath, isGuardedDot, h]
  | cons c pre ih =>
    have htail : afterPath false next (c == '/') (pre ++ '/' :: cs) = true := ih
    simp [afterPath, isGuardedDot, htail]

/-- A final `**` takes all there is. -/
theorem matchFrom_anyPath (start : Bool) (cs : List Char) :
    matchFrom false [.anyPath] start cs = true := by
  induction cs generalizing start with
  | nil => rfl
  | cons c cs ih =>
    have htail : afterPath false (matchFrom false []) (c == '/') cs = true := ih _
    rw [matchFrom, afterPath, htail]
    simp [isGuardedDot]

/-- A `**` can take nothing at the start of a component. -/
theorem afterPath_here {strictDots : Bool} (h : next true cs = true) :
    afterPath strictDots next true cs = true := by
  cases cs with
  | nil => exact h
  | cons c cs => rw [afterPath, h, Bool.and_self, Bool.true_or]

/-- Whether a name starts behind the text `xs`, which starts one itself or not. -/
def startsBehind (start : Bool) (xs : List Char) : Bool :=
  xs.foldl (fun _ c => c == '/') start

/-- Literals stand for themselves, and leave what is behind them to the rest of the pattern. -/
theorem matchFrom_literals_iff {strictDots : Bool} {ts : List Token} {xs : List Char} :
    matchFrom strictDots (xs.map .literal ++ ts) start cs = true ↔
      ∃ rest, cs = xs ++ rest ∧ matchFrom strictDots ts (startsBehind start xs) rest = true := by
  induction xs generalizing start cs with
  | nil => simp [startsBehind]
  | cons x xs ih =>
    cases cs with
    | nil => simp [matchFrom]
    | cons c cs =>
      have hfirst : matchFrom strictDots ((x :: xs).map .literal ++ ts) start (c :: cs)
          = (c == x && matchFrom strictDots (xs.map .literal ++ ts) (c == '/') cs) := rfl
      rw [hfirst, Bool.and_eq_true, ih]
      constructor
      · rintro ⟨hc, rest, rfl, hrest⟩
        cases beq_iff_eq.1 hc
        exact ⟨rest, rfl, hrest⟩
      · rintro ⟨rest, htext, hrest⟩
        cases htext
        exact ⟨beq_self_eq_true _, rest, rfl, hrest⟩

/-- The pattern `**/n/**` matches what lies in a directory `n`, wherever that is. -/
theorem matchFrom_everythingIn {pre post : List String} (hpost : post ≠ []) :
    matchFrom false (everythingIn n) true (Path.slashed (pre ++ n :: post)).toList = true := by
  induction pre with
  | nil =>
    rw [List.nil_append, Path.slashed_cons hpost, everythingIn, matchFrom]
    exact afterPath_here (matchFrom_literals_iff.2 ⟨_, rfl, matchFrom_anyPath true _⟩)
  | cons m pre ih =>
    rw [List.cons_append, Path.slashed_cons (by simp)]
    exact afterPath_skip m.toList ih

end Glob

namespace Exclusion

variable {f : Filter} {n source : String} {names : List String}

/-- The pattern `**/n/**`. -/
def Pattern.everythingIn (n : String) : Pattern where
  source := "**/" ++ n ++ "/**"
  glob := ⟨"**/" ++ n ++ "/**", Glob.everythingIn n⟩
  negated := false
  dirOnly := false
  wholePath := true

/-- Everything in a directory of the name is matched. -/
theorem Pattern.isMatch_everythingIn (h : n ∈ names.dropLast) :
    (everythingIn n).isMatch names = true := by
  have hne : names ≠ [] := by
    rintro rfl
    cases h
  obtain ⟨pre, post, hdirs⟩ := List.append_of_mem h
  have hnames : names = pre ++ n :: post ++ [names.getLast hne] := by
    rw [← hdirs, List.dropLast_concat_getLast hne]
  have hmatch : (everythingIn n).glob.isMatch false
      (subject true (pre ++ n :: post) (names.getLast hne)) = true := by
    rw [Glob.isMatch_eq, subject, if_pos rfl, List.append_assoc, List.cons_append]
    exact Glob.matchFrom_everythingIn (by simp)
  rw [hnames, isMatch_concat, Bool.or_eq_true]
  exact .inr hmatch

theorem Pattern.negated_of_parse {p : Pattern} (h : parse source = .ok p) :
    p.negated = (source.toList.head? == some '!') := by
  have hfront : (stripFront '!' source.toList).1 = (source.toList.head? == some '!') := by
    cases source.toList with
    | nil => rfl
    | cons c cs => by_cases hc : c = '!' <;> simp [stripFront, hc]
  rw [← hfront]
  unfold parse at h
  cases hg : Glob.parse (String.ofList
      (stripBack '/' (stripFront '/' (stripFront '!' source.toList).2).2).2) with
  | error e => simp [hg, Except.map] at h
  | ok g =>
    simp only [hg, Except.map, Except.ok.injEq] at h
    rw [← h]

namespace Filter

/-- The directories whose contents every run leaves out. -/
def defaultDirectories : List String := ["node_modules", ".git"]

theorem patterns_default : default.patterns = defaultDirectories.map Pattern.everythingIn := by
  decide +kernel

/-- The valid patterns among the further ones come behind those that are there. -/
theorem patterns_addValid (f : Filter) (sources : List String) :
    (f.addValid sources).value.patterns
      = f.patterns ++ sources.filterMap fun source => (Pattern.parse source).toOption := by
  induction sources generalizing f with
  | nil => simp [addValid]
  | cons source sources ih =>
    rw [addValid, List.foldlM_cons, Logged.value_bind]
    cases hp : Pattern.parse source with
    | error e =>
      have hf : f.add source = .error (.pattern (.invalid source e)) := by rw [add, hp]
      rw [List.filterMap_cons_none (by rw [hp]; rfl), hf]
      exact ih f
    | ok p =>
      have hf : f.add source = .ok ⟨f.patterns ++ [p]⟩ := by rw [add, hp]
      rw [List.filterMap_cons_some (by rw [hp]; rfl), hf]
      exact (ih _).trans (List.append_assoc ..)

/-- Without a `!`, nothing in a directory of the defaults is left in. -/
theorem excludesNames_of_default (hneg : f.hasNegations = false)
    (hdefault : ∀ p ∈ default.patterns, p ∈ f.patterns) (hn : n ∈ defaultDirectories)
    (h : n ∈ names.dropLast) : f.excludesNames names = true := by
  rw [excludesNames_eq_any hneg, List.any_eq_true]
  refine ⟨.everythingIn n, hdefault _ ?_, Pattern.isMatch_everythingIn h⟩
  rw [patterns_default]
  exact List.mem_map_of_mem hn

end Filter
end Exclusion

namespace Discoverer

variable {base root : Path} {pattern : String} {ignore : List String} {made : Logged Discoverer}

theorem filter_of_make (h : make base pattern root ignore = .ok made) :
    made.value.filter = (Exclusion.Filter.default.addValid ignore).value := by
  unfold make at h
  split at h
  · cases h
  · rw [← Except.ok.inj h]
    rfl

theorem mem_default_of_make (h : make base pattern root ignore = .ok made) :
    ∀ p ∈ Exclusion.Filter.default.patterns, p ∈ made.value.filter.patterns := by
  rw [filter_of_make h, Exclusion.Filter.patterns_addValid]
  exact fun p hp => List.mem_append_left _ hp

/-- Where no valid pattern starts with a `!`, nothing is taken back in. -/
theorem hasNegations_of_make (h : make base pattern root ignore = .ok made)
    (hneg : ∀ source ∈ ignore, ∀ p, Exclusion.Pattern.parse source = .ok p →
      source.toList.head? ≠ some '!') : made.value.filter.hasNegations = false := by
  rw [filter_of_make h, Exclusion.Filter.hasNegations, Exclusion.Filter.patterns_addValid,
    Exclusion.Filter.patterns_default, List.any_append, Bool.or_eq_false_iff]
  refine ⟨by decide, List.any_eq_false.2 fun p hp => ?_⟩
  obtain ⟨source, hsource, hp⟩ := List.mem_filterMap.1 hp
  cases hparse : Exclusion.Pattern.parse source with
  | error e => rw [hparse] at hp; cases hp
  | ok q =>
    rw [hparse] at hp
    cases hp
    rw [Exclusion.Pattern.negated_of_parse hparse, beq_iff_eq]
    exact hneg source hsource p hparse

/--
Where no valid pattern starts with a `!`, no selected path, and so no discovered one, lies in a
directory of the defaults, at any depth. The names of a path are those that the filter sees: from
the project root, or from the base if the path is not in the project.
-/
theorem avoids_defaults (h : make base pattern root ignore = .ok made)
    (hneg : ∀ source ∈ ignore, ∀ p, Exclusion.Pattern.parse source = .ok p →
      source.toList.head? ≠ some '!') :
    (∀ p, made.value.selects p = true →
      ∀ n ∈ (made.value.judgedNames p).dropLast, n ≠ "node_modules" ∧ n ≠ ".git") ∧
    ∀ (d : Disk) (files : List Path), (made.value.discover d).value = .ok files →
      ∀ p ∈ files, ∀ n ∈ (made.value.judgedNames p).dropLast, n ≠ "node_modules" ∧ n ≠ ".git" := by
  have hselected : ∀ p, made.value.selects p = true →
      ∀ n ∈ (made.value.judgedNames p).dropLast, n ≠ "node_modules" ∧ n ≠ ".git" := by
    intro p hp n hn
    have hkept := excludesNames_of_selects hp
    have hnot : n ∉ Exclusion.Filter.defaultDirectories := by
      intro hmem
      rw [Exclusion.Filter.excludesNames_of_default (hasNegations_of_make h hneg)
        (mem_default_of_make h) hmem hn] at hkept
      cases hkept
    simpa [Exclusion.Filter.defaultDirectories] using hnot
  refine ⟨hselected, fun d files hfiles p hp => hselected p ?_⟩
  obtain ⟨loc, -, -, rfl⟩ := discover_eq_ok hfiles
  exact (List.mem_filter.1 hp).2

/-! ## With an ignore file -/

/-- The sources without those in `dist`; a line of the ignore file is not valid. -/
def distIgnored : Logged Discoverer := do
  let filter ← Exclusion.Filter.default.addValid ["dist/", "!["]
  return { base := ⟨"/src"⟩, projectRoot := ⟨"/"⟩, filter,
           selection := ⟨"**/*.js",
             [.anyPath, .anySequence, .literal '.', .literal 'j', .literal 's']⟩ }

theorem make_distIgnored :
    make ⟨"src"⟩ "**/*.js" ⟨"/"⟩ ["dist/", "!["] = .ok distIgnored := by
  simp only [make, parse_scripts]
  rfl

/-- The only line with a `!` is not valid; so a file deep in a `node_modules` is not selected. -/
theorem avoids_defaults_distIgnored :
    make ⟨"src"⟩ "**/*.js" ⟨"/"⟩ ["dist/", "!["] = .ok distIgnored ∧
      (∀ source ∈ ["dist/", "!["], ∀ p, Exclusion.Pattern.parse source = .ok p →
        source.toList.head? ≠ some '!') ∧
      distIgnored.value.selects ⟨"/src/node_modules.js"⟩ = true ∧
      distIgnored.value.selects ⟨"/src/lib/node_modules/x/y.js"⟩ = false := by
  have hneg : ∀ source ∈ ["dist/", "!["], ∀ p, Exclusion.Pattern.parse source = .ok p →
      source.toList.head? ≠ some '!' := by
    intro source hsource p hp
    rcases List.mem_pair.1 hsource with rfl | rfl
    · decide
    · have hinvalid : (Exclusion.Pattern.parse "![").toOption = none := by cbv
      rw [hp] at hinvalid
      cases hinvalid
  refine ⟨make_distIgnored, hneg, by decide +kernel, ?_⟩
  rw [← Bool.not_eq_true]
  intro hselected
  have hnames : distIgnored.value.judgedNames ⟨"/src/lib/node_modules/x/y.js"⟩
      = ["src", "lib", "node_modules", "x", "y.js"] := by decide
  have hnot := (avoids_defaults make_distIgnored hneg).1 _ hselected "node_modules"
  rw [hnames] at hnot
  exact (hnot (by decide)).1 rfl

end Discoverer
end BulkSuppress
