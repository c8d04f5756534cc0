import Mathlib.Data.List.Forall2
import Mathlib.Data.List.Induction
import BulkSuppress.Exclusion.IgnoreList
import BulkSuppress.Proofs.Path.Components

/-
  Ignore files line by line. What a line stands for is settled by the line alone (`patternOf?`), and
  blanks behind it make no difference, a CR among them (`patternOf?_of_pads`). So a file is read by
  what stands between its LFs (`patterns_parse`), and there can be followed what is done to its
  lines: texts joined by an LF, line ends of the other kind, lines without a pattern, blanks added
  to a line. The patterns that come out are those that stand for themselves (`IsEntry`), and a file
  of them is read as it is (`parse_by_lines`).
-/

namespace BulkSuppress

namespace Text

variable {p q cs blanks : List Char} {c sep : Char}

/-! ## Blanks behind a text -/

/-- The second text is the first one with blanks behind it. -/
def Pads (p q : List Char) : Prop := ∃ blanks, q = p ++ blanks ∧ ∀ c ∈ blanks, isBlank c = true

theorem Pads.refl (p : List Char) : Pads p p :=
  ⟨[], (List.append_nil p).symm, List.forall_mem_nil _⟩

theorem Pads.cons (h : Pads p q) (c : Char) : Pads (c :: p) (c :: q) := by
  obtain ⟨blanks, rfl, hblanks⟩ := h
  exact ⟨blanks, rfl, hblanks⟩

theorem Pads.trimEnd_eq (h : Pads p q) : trimEnd q = trimEnd p := by
  obtain ⟨blanks, rfl, hblanks⟩ := h
  rw [trimEnd, List.reverse_append,
    List.dropWhile_append_of_pos fun c hc => hblanks c (List.mem_reverse.1 hc), trimEnd]

theorem Pads.isAllBlank_eq (h : Pads p q) : isAllBlank q = isAllBlank p := by
  obtain ⟨blanks, rfl, hblanks⟩ := h
  rw [isAllBlank, List.all_append, List.all_eq_true.2 hblanks, Bool.and_true, isAllBlank]

theorem Pads.subset (h : Pads p q) : p ⊆ q := by
  obtain ⟨blanks, rfl, -⟩ := h
  exact List.subset_append_left p blanks

theorem Pads.head?_eq_some (h : Pads p q) (hc : p.head? = some c) : q.head? = some c := by
  obtain ⟨blanks, rfl, -⟩ := h
  rw [List.head?_append, hc]
  rfl

/-- Trimming takes blanks off the end and nothing else. -/
theorem pads_trimEnd (cs : List Char) : Pads (trimEnd cs) cs := by
  refine ⟨(cs.reverse.takeWhile isBlank).reverse, ?_, fun c hc => ?_⟩
  · rw [trimEnd, ← List.reverse_append, List.takeWhile_append_dropWhile, List.reverse_reverse]
  · exact List.all_eq_true.1 List.all_takeWhile c (List.mem_reverse.1 hc)

/-- What is left by trimming does not end in a blank. -/
theorem isBlank_of_getLast?_trimEnd (h : (trimEnd cs).getLast? = some c) : isBlank c = false := by
  rw [trimEnd, List.getLast?_reverse] at h
  have hfirst := List.head?_dropWhile_not isBlank cs.reverse
  rwa [h] at hfirst

theorem trimEnd_eq_self (h : ∀ c, cs.getLast? = some c → isBlank c = false) : trimEnd cs = cs := by
  induction cs using List.reverseRecOn with
  | nil => rfl
  | append_singleton cs c => exact trimEnd_append_of_not_blank cs c (h c List.getLast?_concat)

theorem isBlank_return : isBlank '\r' = true := isBlank_of_isWhitespace '\r' rfl

/-- A CR behind a text is a blank. -/
theorem pads_return (p : List Char) : Pads p (p ++ ['\r']) :=
  ⟨['\r'], rfl, List.forall_mem_singleton.2 isBlank_return⟩

/-- A CR at the end of a line is a blank behind it. -/
theorem pads_dropReturn (line : List Char) : Pads (dropReturn line) line := by
  unfold dropReturn
  split
  · rename_i h
    obtain ⟨front, rfl⟩ := List.getLast?_eq_some_iff.1 h
    rw [List.dropLast_concat]
    exact pads_return front
  · exact .refl line

/-! ## What padding makes of the pieces of a text -/

/-- A character in front of two texts that does not cut them. -/
theorem forall₂_pads_cons (hc : c ≠ sep) (h : List.Forall₂ Pads (pieces sep p) (pieces sep q)) :
    List.Forall₂ Pads (pieces sep (c :: p)) (pieces sep (c :: q)) := by
  rw [pieces, pieces, if_neg hc, if_neg hc]
  generalize pieces sep p = ps at h ⊢
  generalize pieces sep q = qs at h ⊢
  cases h with
  | nil => exact .cons (.refl [c]) .nil
  | cons hpads hrest => exact .cons (hpads.cons c) hrest

/-- Blanks behind a text are blanks behind its last piece. -/
theorem forall₂_pads_append (hblank : ∀ c ∈ blanks, isBlank c = true) (hsep : sep ∉ blanks)
    (cs : List Char) : List.Forall₂ Pads (pieces sep cs) (pieces sep (cs ++ blanks)) := by
  induction cs with
  | nil =>
    rw [List.nil_append, pieces_of_not_mem hsep]
    exact .cons ⟨blanks, rfl, hblank⟩ .nil
  | cons c cs ih =>
    rw [List.cons_append]
    by_cases hc : c = sep
    · subst hc
      rw [pieces_cons_sep, pieces_cons_sep]
      exact .cons (.refl []) ih
    · exact forall₂_pads_cons hc ih

/-- The text with CR LF for each LF. -/
def withReturns (cs : List Char) : List Char :=
  cs.flatMap fun c => if c = '\n' then ['\r', '\n'] else [c]

/-- A CR in front of each LF is a blank behind each piece but the last. -/
theorem forall₂_pads_withReturns (cs : List Char) :
    List.Forall₂ Pads (pieces '\n' cs) (pieces '\n' (withReturns cs)) := by
  induction cs with
  | nil => exact .cons (.refl []) .nil
  | cons c cs ih =>
    rw [withReturns, List.flatMap_cons, ← withReturns]
    split
    · rename_i hc
      have hreturn : pieces '\n' (['\r', '\n'] ++ withReturns cs)
          = ['\r'] :: pieces '\n' (withReturns cs) := pieces_append_sep '\n' ['\r'] (withReturns cs)
      rw [hc, pieces_cons_sep, hreturn]
      exact .cons (pads_return []) ih
    · rename_i hc
      exact forall₂_pads_cons hc ih

end Text

namespace Exclusion.IgnoreList
open Text

variable {a b line : String} {p q : List Char} {ps qs : List (List Char)}

/-! ## Line by line -/

/-- The pattern that a line stands for, if it holds one. -/
def patternOf? (line : List Char) : Option String :=
  if isPatternLine line then some (String.ofList (trimEnd line)) else none

theorem patternsOf_eq (lines : List (List Char)) :
    patternsOf lines = lines.filterMap patternOf? := by
  rw [patternsOf, ← List.filterMap_eq_map, List.filterMap_filter]
  rfl

theorem patternOf?_eq_none (h : isAllBlank p = true ∨ p.head? = some '#') :
    patternOf? p = none := by
  rcases h with h | h <;> simp [patternOf?, isPatternLine, h]

/-- Blanks behind a line make no difference to what it stands for. -/
theorem patternOf?_of_pads (h : Pads p q) : patternOf? q = patternOf? p := by
  cases p with
  | nil =>
    have hblank : isAllBlank q = true := h.isAllBlank_eq
    rw [patternOf?_eq_none (.inl hblank), patternOf?_eq_none (.inl rfl)]
  | cons c p =>
    have hhead : q.head? = some c := h.head?_eq_some rfl
    rw [patternOf?, patternOf?, isPatternLine, isPatternLine, h.isAllBlank_eq, h.trimEnd_eq, hhead]
    rfl

theorem filterMap_patternOf?_of_pads (h : List.Forall₂ Pads ps qs) :
    qs.filterMap patternOf? = ps.filterMap patternOf? := by
  induction h with
  | nil => rfl
  | cons hpads _ ih => rw [List.filterMap_cons, List.filterMap_cons, patternOf?_of_pads hpads, ih]

/-- The lines of a text are its pieces, but for CRs and an empty piece at the end. -/
theorem filterMap_linesOfPieces (ps : List (List Char)) :
    (linesOfPieces ps).filterMap patternOf? = ps.filterMap patternOf? := by
  fun_induction linesOfPieces ps with
  | case1 => rfl
  | case2 => rfl
  | case3 => rfl
  | case4 piece next rest ih =>
    rw [List.filterMap_cons, List.filterMap_cons, ih, patternOf?_of_pads (pads_dropReturn piece)]

/-- A file is read by what stands between its LFs. -/
theorem patterns_parse (text : String) :
    (parse text).patterns = (pieces '\n' text.toList).filterMap patternOf? := by
  rw [parse, patternsOf_eq, lines, filterMap_linesOfPieces]

theorem ext_patterns {l k : IgnoreList} (h : l.patterns = k.patterns) : l = k := by
  cases l
  cases k
  exact congrArg IgnoreList.mk h

/-- Blanks behind the pieces of a file make no difference. -/
theorem parse_eq_of_pads
    (h : List.Forall₂ Pads (pieces '\n' a.toList) (pieces '\n' b.toList)) : parse b = parse a :=
  ext_patterns (by rw [patterns_parse, patterns_parse, filterMap_patternOf?_of_pads h])

/-- Texts that are joined by an LF are read one after the other. -/
theorem patterns_parse_append (a b : String) :
    (parse (a ++ "\n" ++ b)).patterns = (parse a).patterns ++ (parse b).patterns := by
  have htext : (a ++ "\n" ++ b).toList = a.toList ++ '\n' :: b.toList := by simp
  rw [patterns_parse, htext, pieces_append_sep, List.filterMap_append, ← patterns_parse,
    ← patterns_parse]

/-- The line ends may be of either kind. -/
theorem parse_withReturns (text : String) :
    parse (String.ofList (withReturns text.toList)) = parse text := by
  refine parse_eq_of_pads ?_
  rw [String.toList_ofList]
  exact forall₂_pads_withReturns text.toList

/-- A line that is blank or a comment holds no pattern. -/
theorem patterns_parse_eq_nil (hoff : '\n' ∉ line.toList)
    (hnone : isAllBlank line.toList = true ∨ line.toList.head? = some '#') :
    (parse line).patterns = [] := by
  rw [patterns_parse, pieces_of_not_mem hoff, List.filterMap_cons_none (patternOf?_eq_none hnone)]
  rfl

/-- Blanks may stand at the end of a text. -/
theorem parse_append_blanks {blanks : String}
    (hblank : ∀ c ∈ blanks.toList, isBlank c = true ∧ c ≠ '\n') :
    parse (a ++ blanks) = parse a := by
  refine parse_eq_of_pads ?_
  rw [String.toList_append]
  exact forall₂_pads_append (fun c hc => (hblank c hc).1) (fun h => (hblank '\n' h).2 rfl) a.toList

/-- Blanks may stand at the end of any line, in front of its line end. -/
theorem parse_append_blanks_append {blanks rest : String}
    (hblank : ∀ c ∈ blanks.toList, isBlank c = true ∧ c ≠ '\n')
    (hrest : rest = "" ∨ rest = "\n" ++ b ∨ rest = "\r\n" ++ b) :
    parse (a ++ blanks ++ rest) = parse (a ++ rest) := by
  rcases hrest with rfl | rfl | rfl
  · rw [String.append_empty, String.append_empty, parse_append_blanks hblank]
  · refine ext_patterns ?_
    rw [← String.append_assoc, ← String.append_assoc, patterns_parse_append,
      parse_append_blanks hblank, patterns_parse_append]
  · -- The CR of the line end is one blank more behind the line.
    have hreturn : ∀ c ∈ "\r".toList, isBlank c = true ∧ c ≠ '\n' :=
      List.forall_mem_singleton.2 ⟨isBlank_return, by decide⟩
    have hsplit (front : String) : front ++ ("\r\n" ++ b) = front ++ "\r" ++ "\n" ++ b := by
      have hends : "\r\n" = "\r" ++ "\n" := rfl
      rw [hends, ← String.append_assoc, ← String.append_assoc]
    refine ext_patterns ?_
    rw [hsplit, hsplit, patterns_parse_append, parse_append_blanks hreturn,
      parse_append_blanks hblank, patterns_parse_append, parse_append_blanks hreturn]

/-! ## Patterns that stand for themselves -/

/-- A text that is a pattern of an ignore file as it stands. -/
structure IsEntry (p : String) : Prop where
  visible : isAllBlank p.toList = false
  oneLine : '\n' ∉ p.toList
  trimmed : ∀ c, p.toList.getLast? = some c → isBlank c = false
  noComment : p.toList.head? ≠ some '#'

theorem IsEntry.patternOf?_eq {p : String} (h : IsEntry p) : patternOf? p.toList = some p := by
  have hline : isPatternLine p.toList = true := by
    rw [isPatternLine, h.visible, Bool.not_false, Bool.true_and, bne_iff_ne]
    exact h.noComment
  rw [patternOf?, if_pos hline, trimEnd_eq_self h.trimmed, String.ofList_toList]

/-- Every pattern of a file stands for itself. -/
theorem isEntry_of_mem {p : String} (h : p ∈ (parse a).patterns) : IsEntry p := by
  rw [patterns_parse] at h
  obtain ⟨line, hline, hentry⟩ := List.mem_filterMap.1 h
  rw [patternOf?, Option.ite_none_right_eq_some, Option.some.injEq, isPatternLine, Bool.and_eq_true,
    Bool.not_eq_true', bne_iff_ne] at hentry
  obtain ⟨⟨hvisible, hhead⟩, rfl⟩ := hentry
  have hpads := pads_trimEnd line
  constructor <;> rw [String.toList_ofList]
  · rw [← hpads.isAllBlank_eq, hvisible]
  · exact fun hmem => not_mem_of_mem_pieces hline (hpads.subset hmem)
  · exact fun c => isBlank_of_getLast?_trimEnd
  · exact fun hc => hhead (hpads.head?_eq_some hc)

/-- A file with a pattern on each line is read as it is. -/
theorem parse_intercalate {entries : List String} (h : ∀ p ∈ entries, IsEntry p) :
    parse ("\n".intercalate entries) = ⟨entries⟩ := by
  refine ext_patterns ?_
  cases entries with
  | nil => rfl
  | cons p entries =>
    have hpieces : pieces '\n' ("\n".intercalate (p :: entries)).toList
        = (p :: entries).map String.toList := by
      rw [String.toList_intercalate]
      refine pieces_intercalate (List.cons_ne_nil _ _) fun line hline => ?_
      obtain ⟨q, hq, rfl⟩ := List.mem_map.1 hline
      exact (h q hq).oneLine
    rw [patterns_parse, hpieces, List.filterMap_map]
    exact (List.filterMap_congr fun q hq => (h q hq).patternOf?_eq).trans List.filterMap_some

/-! ## Ignore files -/

/--
How an ignore file is read. Texts that are joined by an LF are read one after the other. It makes
no difference whether LFs or CR LFs end the lines, whether a line that is blank or starts with `#`
stands in front of another, at the start or behind a line end, nor what blanks stand at the end of
a line. Every pattern is one that stands for itself, and patterns of that kind, the ones that were
read among them, are read as they are from a file that has one on each line.
-/
theorem parse_by_lines (a b : String) :
    (parse (a ++ "\n" ++ b)).patterns = (parse a).patterns ++ (parse b).patterns
    ∧ parse (String.ofList (withReturns a.toList)) = parse a
    ∧ (∀ line : String, '\n' ∉ line.toList →
        isAllBlank line.toList = true ∨ line.toList.head? = some '#' →
        parse (line ++ "\n" ++ b) = parse b
        ∧ parse (a ++ "\n" ++ line) = parse a
        ∧ parse (a ++ "\n" ++ (line ++ "\n" ++ b)) = parse (a ++ "\n" ++ b))
    ∧ (∀ blanks rest : String, (∀ c ∈ blanks.toList, isBlank c = true ∧ c ≠ '\n') →
        rest = "" ∨ rest = "\n" ++ b ∨ rest = "\r\n" ++ b →
        parse (a ++ blanks ++ rest) = parse (a ++ rest))
    ∧ (∀ p ∈ (parse a).patterns, IsEntry p)
    ∧ parse ("\n".intercalate (parse a).patterns) = parse a
    ∧ ∀ ps : List String, (∀ p ∈ ps, IsEntry p) → parse ("\n".intercalate ps) = ⟨ps⟩ := by
  refine ⟨patterns_parse_append a b, parse_withReturns a, fun line hoff hnone => ?_,
    fun blanks rest => parse_append_blanks_append, fun p => isEntry_of_mem,
    parse_intercalate fun p => isEntry_of_mem, fun ps => parse_intercalate⟩
  have hline : (parse line).patterns = [] := patterns_parse_eq_nil hoff hnone
  have hfirst (rest : String) : parse (line ++ "\n" ++ rest) = parse rest :=
    ext_patterns (by rw [patterns_parse_append, hline, List.nil_append])
  refine ⟨hfirst b, ext_patterns ?_, ext_patterns ?_⟩
  · rw [patterns_parse_append, hline, List.append_nil]
  · rw [patterns_parse_append, hfirst, patterns_parse_append]

/-- A file of two patterns, with a comment between them, blanks behind one, and CR LFs. -/
theorem parse_by_lines_dist :
    IsEntry "dist/" ∧ IsEntry "!dist/keep.js"
    ∧ parse "dist/\n!dist/keep.js" = ⟨["dist/", "!dist/keep.js"]⟩
    ∧ parse "dist/\n# built\n!dist/keep.js" = ⟨["dist/", "!dist/keep.js"]⟩
    ∧ parse "dist/ \t\r\n!dist/keep.js" = ⟨["dist/", "!dist/keep.js"]⟩ := by
  obtain ⟨-, -, hinsert, hblanks, -, -, hread⟩ := parse_by_lines "dist/" "!dist/keep.js"
  obtain ⟨-, hreturns, -⟩ := parse_by_lines "dist/\n!dist/keep.js" ""
  have hdist : IsEntry "dist/" :=
    ⟨by decide, by decide, fun c hc => by cases hc; decide, by decide⟩
  have hkeep : IsEntry "!dist/keep.js" :=
    ⟨by decide, by decide, fun c hc => by cases hc; decide, by decide⟩
  have hplain : parse "dist/\n!dist/keep.js" = ⟨["dist/", "!dist/keep.js"]⟩ :=
    hread ["dist/", "!dist/keep.js"] (by simp [hdist, hkeep])
  have hblank : ∀ c ∈ " \t".toList, isBlank c = true ∧ c ≠ '\n' := by
    have hall : (" \t".toList.all fun c => isBlank c && c != '\n') = true := by decide
    intro c hc
    simpa using List.all_eq_true.1 hall c hc
  refine ⟨hdist, hkeep, hplain, ?_, ?_⟩
  · exact ((hinsert "# built" (by decide) (.inr (by decide))).2.2).trans hplain
  · exact ((hblanks " \t" "\r\n!dist/keep.js" hblank (.inr (.inr rfl))).trans
      hreturns).trans hplain

end Exclusion.IgnoreList
end BulkSuppress
