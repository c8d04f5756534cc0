import BulkSuppress.Glob.Match
import BulkSuppress.Proofs.Path.Components

/-
  Patterns that end in wildcards for a whole name, as in `src/*`, `src/**` and `src/**/*`. Such a
  pattern does not look at the last name of a path: where dots are not strict, it matches every
  entry of a directory or none (`isMatch_sibling`).
-/

namespace BulkSuppress.Glob

/-- A wildcard for any number of characters. -/
def Token.isWild : Token → Bool
  | .anySequence | .anyPath => true
  | _ => false

/-- The pattern ends in wildcards, with nothing between them and the last slash. -/
def endsInAnyName (g : Glob) : Bool :=
  let backwards := g.tokens.reverse
  backwards.head?.any Token.isWild &&
    (backwards.dropWhile Token.isWild).head?.all (· = .literal '/')

variable {ws : List Token} {x y z : List Char} {start : Bool}
variable {next : Bool → List Char → Bool}

theorem exists_of_endsInAnyName {g : Glob} (h : g.endsInAnyName = true) :
    ∃ us ws, g.tokens = us ++ ws ∧ ws ≠ [] ∧ (∀ t ∈ ws, t.isWild = true) ∧
      (us = [] ∨ ∃ vs, us = vs ++ [.literal '/']) := by
  rw [endsInAnyName, Bool.and_eq_true] at h
  refine ⟨(g.tokens.reverse.dropWhile Token.isWild).reverse,
    (g.tokens.reverse.takeWhile Token.isWild).reverse, ?_, ?_, ?_, ?_⟩
  · rw [← List.reverse_append, List.takeWhile_append_dropWhile, List.reverse_reverse]
  · cases ht : g.tokens.reverse with
    | nil => simp [ht] at h
    | cons t ts =>
      have hw : t.isWild = true := by simpa [ht] using h.1
      simp [hw]
  · intro t ht
    exact List.all_eq_true.1 List.all_takeWhile t (List.mem_reverse.1 ht)
  · cases hd : g.tokens.reverse.dropWhile Token.isWild with
    | nil => exact .inl rfl
    | cons t ts =>
      have hl : t = .literal '/' := by simpa [hd] using h.2
      exact .inr ⟨ts.reverse, by rw [List.reverse_cons, hl]⟩

/-! ## Wildcards and the text behind a prefix -/

theorem afterName_append (h0 : ∀ start, afterName false next start y = true →
      afterName false next start z = true)
    (hn : ∀ start x, next start (x ++ y) = true → next start (x ++ z) = true)
    (h : afterName false next start (x ++ y) = true) :
    afterName false next start (x ++ z) = true := by
  induction x generalizing start with
  | nil => exact h0 start h
  | cons c x ih =>
    simp only [List.cons_append, afterName, Bool.or_eq_true, Bool.and_eq_true] at h ⊢
    rcases h with h | ⟨hc, h⟩
    · exact .inl (hn start (c :: x) h)
    · exact .inr ⟨hc, ih h⟩

theorem afterPath_append (h0 : ∀ start, afterPath false next start y = true →
      afterPath false next start z = true)
    (hn : ∀ start x, next start (x ++ y) = true → next start (x ++ z) = true)
    (h : afterPath false next start (x ++ y) = true) :
    afterPath false next start (x ++ z) = true := by
  induction x generalizing start with
  | nil => exact h0 start h
  | cons c x ih =>
    simp only [List.cons_append, afterPath, Bool.or_eq_true, Bool.and_eq_true] at h ⊢
    rcases h with ⟨hs, h⟩ | ⟨hc, h⟩
    · exact .inl ⟨hs, hn start (c :: x) h⟩
    · exact .inr ⟨hc, ih h⟩

theorem afterName_eq_false (h : ∀ start y, '/' ∉ y → next start y = false) (start : Bool) :
    ∀ y, '/' ∉ y → afterName false next start y = false := by
  intro y hy
  induction y generalizing start with
  | nil => exact h start [] hy
  | cons c y ih =>
    rw [afterName, h start _ hy, ih false fun hc => hy (List.mem_cons_of_mem _ hc)]
    simp

theorem afterPath_eq_false (h : ∀ start y, '/' ∉ y → next start y = false) (start : Bool) :
    ∀ y, '/' ∉ y → afterPath false next start y = false := by
  intro y hy
  induction y generalizing start with
  | nil => exact h start [] hy
  | cons c y ih =>
    rw [afterPath, h start _ hy, ih _ fun hc => hy (List.mem_cons_of_mem _ hc)]
    simp

/-! ## Wildcards that take a name -/

theorem matchFrom_wild_nil (hw : ∀ t ∈ ws, t.isWild = true) (start : Bool) :
    matchFrom false ws start [] = true := by
  induction ws generalizing start with
  | nil => rfl
  | cons t ws ih =>
    rw [List.forall_mem_cons] at hw
    cases t with
    | anySequence => exact ih hw.2 start
    | anyPath => exact ih hw.2 start
    | _ => cases hw.1

/-- Wildcards take any name, if there are some. -/
theorem matchFrom_wild (hw : ∀ t ∈ ws, t.isWild = true) (hne : ws ≠ []) (hz : '/' ∉ z)
    (start : Bool) : matchFrom false ws start z = true := by
  obtain ⟨t, ws, rfl⟩ := List.exists_cons_of_ne_nil hne
  induction z generalizing start with
  | nil => exact matchFrom_wild_nil hw start
  | cons c z ih =>
    rw [List.mem_cons, not_or] at hz
    cases t with
    | anySequence =>
      have hc : (c != '/') = true := by simpa using Ne.symm hz.1
      have htail : afterName false (matchFrom false ws) false z = true := ih hz.2 false
      simp [matchFrom, afterName, isGuardedDot, hc, htail]
    | anyPath =>
      have htail : afterPath false (matchFrom false ws) (c == '/') z = true := ih hz.2 _
      simp [matchFrom, afterPath, isGuardedDot, htail]
    | _ => cases (List.forall_mem_cons.1 hw).1

/-- Wildcards that take a name behind a text take any other name behind it. -/
theorem matchFrom_wild_append (hw : ∀ t ∈ ws, t.isWild = true) (hy : y ≠ []) (hz : '/' ∉ z)
    (h : matchFrom false ws start (x ++ y) = true) : matchFrom false ws start (x ++ z) = true := by
  induction ws generalizing start x with
  | nil =>
    have : x ++ y = [] := by simpa [matchFrom] using h
    exact absurd (List.append_eq_nil_iff.1 this).2 hy
  | cons t ws ih =>
    have hz' (start : Bool) := matchFrom_wild hw (List.cons_ne_nil t ws) hz start
    have hn (start : Bool) (x : List Char) (h : matchFrom false ws start (x ++ y) = true) :
        matchFrom false ws start (x ++ z) = true :=
      ih (List.forall_mem_cons.1 hw).2 h
    cases t with
    | anySequence => exact afterName_append (fun start _ => hz' start) hn h
    | anyPath => exact afterPath_append (fun start _ => hz' start) hn h
    | _ => cases (List.forall_mem_cons.1 hw).1

/-! ## Patterns with a slash in front of the wildcards -/

/-- A pattern with a slash does not match a name. -/
theorem matchFrom_slash_eq_false (vs : List Token) (start : Bool) :
    ∀ y, '/' ∉ y → matchFrom false (vs ++ .literal '/' :: ws) start y = false := by
  induction vs generalizing start with
  | nil =>
    intro y hy
    cases y with
    | nil => rfl
    | cons c y =>
      have hc : c ≠ '/' := fun e => hy (e ▸ List.mem_cons_self ..)
      simp [matchFrom, Token.accepts, hc]
  | cons t vs ih =>
    intro y hy
    have hrest (c : Char) (cs : List Char) (e : y = c :: cs) :
        matchFrom false (vs ++ .literal '/' :: ws) (c == '/') cs = false :=
      ih _ cs fun hc => hy (e ▸ List.mem_cons_of_mem _ hc)
    cases t with
    | anySequence => exact afterName_eq_false ih start y hy
    | anyPath => exact afterPath_eq_false ih start y hy
    | _ =>
      cases y with
      | nil => rfl
      | cons c cs => simp [matchFrom, hrest c cs rfl]

/-- Past the slash there are only wildcards, so the name behind a text can be any other one. -/
theorem matchFrom_slash_append (hw : ∀ t ∈ ws, t.isWild = true) (vs : List Token)
    (hy : y ≠ []) (hys : '/' ∉ y) (hz : '/' ∉ z)
    (h : matchFrom false (vs ++ .literal '/' :: ws) start (x ++ y) = true) :
    matchFrom false (vs ++ .literal '/' :: ws) start (x ++ z) = true := by
  -- the slash cannot be found in the name alone
  have hnot (vs : List Token) (start : Bool) :
      matchFrom false (vs ++ .literal '/' :: ws) start y = true → False := by
    rw [matchFrom_slash_eq_false vs start y hys]
    exact Bool.false_ne_true
  induction vs generalizing start x with
  | nil =>
    cases x with
    | nil => exact (hnot [] start h).elim
    | cons c x =>
      simp only [List.nil_append, List.cons_append, matchFrom, Bool.and_eq_true] at h ⊢
      exact ⟨h.1, matchFrom_wild_append hw hy hz h.2⟩
  | cons t vs ih =>
    cases t with
    | anySequence =>
      exact afterName_append (fun start h => (hnot (.anySequence :: vs) start h).elim)
        (fun _ _ => ih) h
    | anyPath =>
      exact afterPath_append (fun start h => (hnot (.anyPath :: vs) start h).elim)
        (fun _ _ => ih) h
    | _ =>
      cases x with
      | nil => exact (hnot (_ :: vs) start h).elim
      | cons c x =>
        simp only [List.cons_append, matchFrom, Bool.and_eq_true] at h ⊢
        exact ⟨h.1, ih h.2⟩

/-- The text of the path of an entry ends in the entry's name. -/
theorem exists_toList_slashed (names : List String) :
    ∃ front, ∀ n, (Path.slashed (names ++ [n])).toList = front ++ n.toList := by
  induction names with
  | nil => exact ⟨[], fun n => by simp [Path.slashed, Path.unpieces]⟩
  | cons m names ih =>
    obtain ⟨front, hf⟩ := ih
    refine ⟨m.toList ++ '/' :: front, fun n => ?_⟩
    rw [List.cons_append, Path.slashed_cons (by simp), hf, List.append_assoc, List.cons_append]

/-- A pattern that ends in wildcards for a name matches all entries of a directory or none. -/
theorem isMatch_sibling {g : Glob} (h : g.endsInAnyName = true) {names : List String}
    {m n : String} (hm : m ≠ "") (hms : '/' ∉ m.toList) (hns : '/' ∉ n.toList)
    (hmatch : g.isMatch false (Path.slashed (names ++ [m])) = true) :
    g.isMatch false (Path.slashed (names ++ [n])) = true := by
  obtain ⟨us, ws, ht, hne, hw, hus⟩ := exists_of_endsInAnyName h
  obtain ⟨front, hf⟩ := exists_toList_slashed names
  have hm' : m.toList ≠ [] := fun e => hm (String.toList_inj.1 e)
  rw [isMatch_eq, ht, hf] at hmatch ⊢
  rcases hus with rfl | ⟨vs, rfl⟩
  · exact matchFrom_wild_append hw hm' hns hmatch
  · rw [List.append_assoc] at hmatch ⊢
    exact matchFrom_slash_append hw vs hm' hms hns hmatch

end BulkSuppress.Glob
