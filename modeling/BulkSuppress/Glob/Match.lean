import BulkSuppress.Glob.Basic

/-
  Matching a glob pattern against a slashed text. No wildcard but `**` reaches over a slash.
  When dots are strict, no wildcard stands for a dot at the start of a name. `matchFrom` says
  what matches by trying every way to split the text; `row` computes the same for all ends of
  the pattern at once (`row_eq`), so that matching takes time in proportion to pattern times text.
-/

namespace BulkSuppress.Glob

/-- A character of one of the ranges. -/
def inRanges (set : List CharRange) (c : Char) : Bool :=
  set.any fun r => r.low ≤ c && c ≤ r.high

/-- A dot that wildcards have to leave alone: dots are strict and it starts a name. -/
def isGuardedDot (strictDots start : Bool) (c : Char) : Bool :=
  strictDots && start && c == '.'

/-- The character `c`, at the start of a name or not, stands for the token that takes one. -/
def Token.accepts (strictDots start : Bool) (c : Char) : Token → Bool
  | .literal d => c == d
  | .anyChar => c != '/' && !isGuardedDot strictDots start c
  | .oneOf set => c != '/' && !isGuardedDot strictDots start c && inRanges set c
  | .noneOf set => c != '/' && !isGuardedDot strictDots start c && !inRanges set c
  | .anySequence | .anyPath => false

/-! ## What matches -/

/-- Some part of the name at the front can be skipped so that `next` takes the rest. -/
def afterName (strictDots : Bool) (next : Bool → List Char → Bool) : Bool → List Char → Bool
  | start, [] => next start []
  | start, c :: cs =>
    next start (c :: cs) ||
      (!isGuardedDot strictDots start c && c != '/' && afterName strictDots next false cs)

/-- Some number of whole components can be skipped so that `next` takes the rest. -/
def afterPath (strictDots : Bool) (next : Bool → List Char → Bool) : Bool → List Char → Bool
  | start, [] => next start []
  | start, c :: cs =>
    (start && next start (c :: cs)) ||
      (!isGuardedDot strictDots start c && afterPath strictDots next (c == '/') cs)

/-- The tokens match the whole text, which starts at the start of a name or not. -/
def matchFrom (strictDots : Bool) : List Token → Bool → List Char → Bool
  | [], _, cs => cs.isEmpty
  | .anySequence :: ts, start, cs => afterName strictDots (matchFrom strictDots ts) start cs
  | .anyPath :: ts, start, cs => afterPath strictDots (matchFrom strictDots ts) start cs
  | t :: ts, start, c :: cs =>
    t.accepts strictDots start c && matchFrom strictDots ts (c == '/') cs
  | _ :: _, _, [] => false

/-! ## Computing it -/

/-- Of each end of the pattern, whether it matches the empty text. -/
def lastRow : List Token → List Bool
  | [] => [true]
  | t :: ts =>
    let below := lastRow ts
    (match t with
      | .anySequence | .anyPath => below.headD false
      | _ => false) :: below

/-- Of each end of the pattern, whether it matches `c` and a rest for which `after` tells. -/
def rowBefore (strictDots start : Bool) (c : Char) : List Token → List Bool → List Bool
  | [], _ => [false]
  | t :: ts, after =>
    let here := rowBefore strictDots start c ts after.tail
    let skip := here.headD false
    let stay := after.headD false
    (match t with
      | .anySequence => skip || (!isGuardedDot strictDots start c && c != '/' && stay)
      | .anyPath => (start && skip) || (!isGuardedDot strictDots start c && stay)
      | t => t.accepts strictDots start c && after.tail.headD false) :: here

/-- Of each end of the pattern, whether it matches the text. -/
def row (strictDots : Bool) (tokens : List Token) : Bool → List Char → List Bool
  | _, [] => lastRow tokens
  | start, c :: cs =>
    rowBefore strictDots start c tokens (row strictDots tokens (c == '/') cs)

/-- The matches of all ends of a pattern, the whole pattern first. -/
def matchesOfTails (strictDots : Bool) (start : Bool) (cs : List Char) : List Token → List Bool
  | [] => [matchFrom strictDots [] start cs]
  | t :: ts => matchFrom strictDots (t :: ts) start cs :: matchesOfTails strictDots start cs ts

theorem headD_matchesOfTails (strictDots start : Bool) (cs : List Char) (ts : List Token)
    (d : Bool) :
    (matchesOfTails strictDots start cs ts).headD d = matchFrom strictDots ts start cs := by
  cases ts <;> rfl

theorem lastRow_eq (strictDots start : Bool) (ts : List Token) :
    lastRow ts = matchesOfTails strictDots start [] ts := by
  induction ts with
  | nil => rfl
  | cons t ts ih =>
    simp only [lastRow, matchesOfTails, ih, headD_matchesOfTails]
    cases t <;> simp [matchFrom, afterName, afterPath]

theorem rowBefore_eq (strictDots start : Bool) (c : Char) (cs : List Char) (ts : List Token) :
    rowBefore strictDots start c ts (matchesOfTails strictDots (c == '/') cs ts)
      = matchesOfTails strictDots start (c :: cs) ts := by
  induction ts with
  | nil => simp [rowBefore, matchesOfTails, matchFrom]
  | cons t ts ih =>
    simp only [rowBefore, matchesOfTails, List.tail_cons, ih, headD_matchesOfTails,
      List.headD_cons, List.cons.injEq, and_true]
    cases t with
    | anySequence =>
      simp only [matchFrom, afterName]
      by_cases hc : c = '/'
      · simp [hc]
      · simp [beq_eq_false_iff_ne.2 hc]
    | anyPath => simp [matchFrom, afterPath]
    | _ => simp [matchFrom]

theorem row_eq (strictDots start : Bool) (ts : List Token) (cs : List Char) :
    row strictDots ts start cs = matchesOfTails strictDots start cs ts := by
  induction cs generalizing start with
  | nil => exact lastRow_eq _ _ _
  | cons c cs ih => rw [row, ih, rowBefore_eq]

/-- The pattern matches the whole text. -/
def isMatch (strictDots : Bool) (g : Glob) (text : String) : Bool :=
  (row strictDots g.tokens true text.toList).headD false

theorem isMatch_eq (strictDots : Bool) (g : Glob) (text : String) :
    g.isMatch strictDots text = matchFrom strictDots g.tokens true text.toList := by
  rw [isMatch, row_eq, headD_matchesOfTails]

end BulkSuppress.Glob
