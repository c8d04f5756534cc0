import BulkSuppress.Exclusion.Filter
import BulkSuppress.Proofs.Glob.AnyName

/-
  When a whole directory is excluded because one entry of it is. A pattern that matches the
  directory speaks for everything inside, and a pattern for single names that matches the entry
  shows on the entry's name alone. A pattern for whole paths can match the path of the entry and
  no other one (`singlesOut`). Short of that, a filter without negations that excludes the entry,
  and not for its name's sake, excludes everything at any depth (`excludesNames_append`). Filters
  of the common forms never single an entry out (`singlesOut_eq_false`).
-/

namespace BulkSuppress.Exclusion

namespace Pattern

variable {p : Pattern} {names rest : List String} {n : String}

/-- The text that a pattern is tried on for the entry `n` of the directory with the names. -/
def subject (wholePath : Bool) (names : List String) (n : String) : String :=
  if wholePath then Path.slashed (names ++ [n]) else n

/-- The pattern matches the directory with the names, or a directory above it. -/
def matchesDirectory (p : Pattern) (names : List String) : Bool :=
  (subjects p.wholePath names).any (p.glob.isMatch false)

/--
The pattern matches the path of the entry `n` of a directory, and may match no other entry: it is
for whole paths, not for directories only, and looks at the last name.
-/
def singlesOut (p : Pattern) (names : List String) (n : String) : Bool :=
  p.wholePath && !p.dirOnly && !p.glob.endsInAnyName &&
    p.glob.isMatch false (Path.slashed (names ++ [n]))

theorem subjects_concat (wholePath : Bool) (names : List String) (n : String) :
    subjects wholePath (names ++ [n])
      = subjects wholePath names ++ [subject wholePath names n] := by
  cases wholePath with
  | false => rfl
  | true =>
    simp only [subjects, subject, if_true, List.length_append, List.length_singleton,
      List.range_succ, List.map_append, List.map_singleton]
    congr 1
    · refine List.map_congr_left fun k hk => ?_
      have : k + 1 ≤ names.length := List.mem_range.1 hk
      rw [List.take_append_of_le_length this]
    · rw [List.take_of_length_le (by simp)]

theorem isMatch_concat (p : Pattern) (names : List String) (n : String) :
    p.isMatch (names ++ [n]) = (p.matchesDirectory names ||
      !p.dirOnly && p.glob.isMatch false (subject p.wholePath names n)) := by
  simp only [isMatch, matchesDirectory, subjects_concat, List.dropLast_concat]
  cases p.dirOnly <;> simp

theorem matchesDirectory_concat (p : Pattern) (names : List String) (n : String) :
    p.matchesDirectory (names ++ [n]) = (p.matchesDirectory names ||
      p.glob.isMatch false (subject p.wholePath names n)) := by
  simp [matchesDirectory, subjects_concat]

/-- What matches a directory matches everything at any depth below it. -/
theorem isMatch_append (h : p.matchesDirectory names = true) (hr : rest ≠ []) :
    p.isMatch (names ++ rest) = true := by
  induction rest generalizing names with
  | nil => exact absurd rfl hr
  | cons m rest ih =>
    cases rest with
    | nil => rw [isMatch_concat, h]; rfl
    | cons m' rest =>
      rw [List.append_cons]
      exact ih (by rw [matchesDirectory_concat, h]; rfl) (List.cons_ne_nil _ _)

/-- What matches an entry of a directory matches everything in the entry, too. -/
theorem isMatch_entry {m : String} (hd : p.dirOnly = false)
    (h : p.glob.isMatch false (subject p.wholePath names m) = true) (rest : List String) :
    p.isMatch (names ++ m :: rest) = true := by
  cases rest with
  | nil => rw [isMatch_concat, hd, h, Bool.not_false, Bool.and_self, Bool.or_true]
  | cons m' rest =>
    rw [List.append_cons]
    exact isMatch_append (by rw [matchesDirectory_concat, h, Bool.or_true]) (List.cons_ne_nil _ _)

theorem isMatch_singleton (hw : p.wholePath = false) (hd : p.dirOnly = false) (n : String) :
    p.isMatch [n] = p.glob.isMatch false n := by
  simp [isMatch, subjects, hw, hd]

end Pattern

namespace Filter

variable {f : Filter} {names rest : List String} {n : String}

/-- Some pattern matches the path of the entry `n` of a directory, and may match no other one. -/
def singlesOut (f : Filter) (names : List String) (n : String) : Bool :=
  f.patterns.any (·.singlesOut names n)

/-- Without negations, every pattern that matches excludes. -/
theorem excludesNames_eq_any (h : f.hasNegations = false) (names : List String) :
    f.excludesNames names = f.patterns.any (·.isMatch names) := by
  suffices hgo : ∀ (ps : List Pattern) (b : Bool), ps.any (·.negated) = false →
      ps.foldl (fun excluded p => if p.isMatch names then !p.negated else excluded) b
        = (b || ps.any (·.isMatch names)) by
    simpa [excludesNames] using hgo f.patterns false h
  intro ps
  induction ps with
  | nil => simp
  | cons p ps ih =>
    intro b hp
    rw [List.any_cons, Bool.or_eq_false_iff] at hp
    rw [List.foldl_cons, ih _ hp.2, List.any_cons, hp.1]
    cases p.isMatch names <;> simp

/--
If an entry of a directory is excluded, not for its name's sake and not singled out, everything
at any depth below the directory is excluded.
-/
theorem excludesNames_append (hneg : f.hasNegations = false) (hne : n ≠ "") (hn : '/' ∉ n.toList)
    (hdir : f.excludesNames (names ++ [n]) = true) (hown : f.excludesNames [n] = false)
    (hs : f.singlesOut names n = false) (hr : rest ≠ []) (hrs : ∀ m ∈ rest, '/' ∉ m.toList) :
    f.excludesNames (names ++ rest) = true := by
  rw [excludesNames_eq_any hneg] at hdir hown ⊢
  obtain ⟨p, hp, hmatch⟩ := List.any_eq_true.1 hdir
  refine List.any_eq_true.2 ⟨p, hp, ?_⟩
  rw [Pattern.isMatch_concat, Bool.or_eq_true, Bool.and_eq_true, Bool.not_eq_true'] at hmatch
  rcases hmatch with hd | ⟨hd, hg⟩
  · exact Pattern.isMatch_append hd hr
  obtain ⟨m, rest, rfl⟩ := List.exists_cons_of_ne_nil hr
  -- the pattern matches the entry itself: it is for whole paths, and takes any name at the end
  have hwhole : p.wholePath = true := by
    rw [← Bool.not_eq_false]
    intro hw
    have hnot := List.any_eq_false.1 hown p hp
    rw [Pattern.isMatch_singleton hw hd] at hnot
    rw [hw] at hg
    exact hnot hg
  have hsubject (x : String) :
      Pattern.subject p.wholePath names x = Path.slashed (names ++ [x]) := by
    rw [hwhole, Pattern.subject, if_pos rfl]
  rw [hsubject] at hg
  have hany : p.glob.endsInAnyName = true := by
    have hnot := List.any_eq_false.1 hs p hp
    simpa [Pattern.singlesOut, hwhole, hd, hg] using hnot
  have hfirst := Glob.isMatch_sibling hany hne hn (hrs m (List.mem_cons_self ..)) hg
  exact Pattern.isMatch_entry hd (by rw [hsubject, hfirst]) rest

/-- No pattern for whole paths looks at the last name, unless it is for directories. -/
def isUniform (f : Filter) : Bool :=
  f.patterns.all fun p => !p.wholePath || p.dirOnly || p.glob.endsInAnyName

theorem singlesOut_eq_false (h : f.isUniform = true) (names : List String) (n : String) :
    f.singlesOut names n = false := by
  refine List.any_eq_false.2 fun p hp => ?_
  have := List.all_eq_true.1 h p hp
  simp only [Pattern.singlesOut]
  cases hw : p.wholePath <;> cases hd : p.dirOnly <;> simp_all

example : default.isUniform = true := by cbv

end Filter
end BulkSuppress.Exclusion
