import Mathlib.Data.List.Nodup
import BulkSuppress.LintReport
import BulkSuppress.Proofs.Header.Comment
import BulkSuppress.Proofs.Path.Components

/-
  The lines of a header below the first one, for the rules that a report names. Each opens a block
  comment, which ends at the first `*/` behind the opening. The names come as the linter gives them,
  and neither `*/` nor LF is taken out. So a line is one comment exactly if its rule has no `*/`,
  and otherwise what comes behind that is code (`blockComment?_suppression`); the header has the
  lines it is made of exactly if no rule has an LF (`pieces_build_iff`). Where no rule has a `*/`,
  nothing but comments is put in front of a file (`comments_suppressions`). `header_of_report` puts
  these together.
-/

namespace BulkSuppress

namespace Header

variable {a : Char} {cs xs front body code : List Char} {rule remark : String}
  {rules : RuleSet}

/-! ## Block comments -/

/-- The text in front of the first `*/`, and the code behind it. -/
def untilClose : List Char → Option (List Char × List Char)
  | [] => none
  | '*' :: '/' :: code => some ([], code)
  | a :: cs => (untilClose cs).map fun r => (a :: r.1, r.2)

/-- The text of the block comment that source code starts with, and the code after it. -/
def blockComment? : List Char → Option (List Char × List Char)
  | '/' :: '*' :: rest => untilClose rest
  | _ => none

/-- The code goes on with comments and the ends of lines, and after these with the rest. -/
inductive Comments : List Char → List Char → Prop
  | done (cs : List Char) : Comments cs cs
  | lineEnd {a : Char} {cs rest : List Char} (ha : isLineTerminator a = true)
      (h : Comments cs rest) : Comments (a :: cs) rest
  | line {cs text code rest : List Char} (hc : lineComment? cs = some (text, code))
      (h : Comments code rest) : Comments cs rest
  | block {cs text code rest : List Char} (hc : blockComment? cs = some (text, code))
      (h : Comments code rest) : Comments cs rest

theorem untilClose_cons (h : ¬ ['*', '/'] <+: a :: cs) :
    untilClose (a :: cs) = (untilClose cs).map fun r => (a :: r.1, r.2) := by
  rw [untilClose]
  rintro code rfl rfl
  exact h ⟨code, rfl⟩

theorem untilClose_eq_none_iff : untilClose xs = none ↔ ¬ ['*', '/'] <:+: xs := by
  induction xs with
  | nil => simp [untilClose]
  | cons a xs ih =>
    rw [List.infix_cons_iff, not_or]
    by_cases hclose : ['*', '/'] <+: a :: xs
    · obtain ⟨code, hcode⟩ := hclose
      simp [← hcode, untilClose]
    · rw [untilClose_cons hclose, Option.map_eq_none_iff, ih, and_iff_right hclose]

theorem untilClose_of_not_infix (h : ¬ ['*', '/'] <:+: body) (code : List Char) :
    untilClose (body ++ '*' :: '/' :: code) = some (body, code) := by
  induction body with
  | nil => rfl
  | cons a body ih =>
    rw [List.infix_cons_iff, not_or] at h
    have hopen : ¬ ['*', '/'] <+: a :: (body ++ '*' :: '/' :: code) := by
      rintro ⟨rest, hrest⟩
      obtain ⟨rfl, htail⟩ := List.cons.inj hrest
      cases body with
      | nil => cases htail
      | cons b body =>
        cases htail
        exact h.1 ⟨body, rfl⟩
    rw [List.cons_append, untilClose_cons hopen, ih h.2]
    rfl

theorem of_untilClose (h : untilClose xs = some (body, code)) :
    xs = body ++ '*' :: '/' :: code ∧ ¬ ['*', '/'] <:+: body := by
  induction xs generalizing body with
  | nil => cases h
  | cons a xs ih =>
    by_cases hclose : ['*', '/'] <+: a :: xs
    · obtain ⟨code', hcode⟩ := hclose
      rw [← hcode] at h ⊢
      cases h
      exact ⟨rfl, by simp⟩
    · rw [untilClose_cons hclose] at h
      obtain ⟨r, hr, hcons⟩ := Option.map_eq_some_iff.1 h
      cases hcons
      obtain ⟨rfl, hopen⟩ := ih hr
      refine ⟨rfl, fun hinfix => ?_⟩
      rcases List.infix_cons_iff.1 hinfix with hstart | hinfix
      · exact hclose (hstart.trans (List.prefix_append ..))
      · exact hopen hinfix

/-- A comment goes up to the first `*/`. -/
theorem untilClose_eq_some_iff : untilClose xs = some (body, code) ↔
    xs = body ++ '*' :: '/' :: code ∧ ¬ ['*', '/'] <:+: body := by
  refine ⟨of_untilClose, ?_⟩
  rintro ⟨rfl, hopen⟩
  exact untilClose_of_not_infix hopen code

/-! ## One line -/

/-- What has no star in front of a text makes no `*/` with it. -/
theorem infix_behind_iff (hfront : '*' ∉ front) :
    ['*', '/'] <:+: front ++ xs ↔ ['*', '/'] <:+: xs := by
  refine ⟨fun h => ?_, fun h => h.trans (List.suffix_append ..).isInfix⟩
  induction front with
  | nil => exact h
  | cons a front ih =>
    rw [List.mem_cons, not_or] at hfront
    rcases List.infix_cons_iff.1 h with hstart | h
    · exact absurd (List.cons_prefix_cons.1 hstart).1 hfront.1
    · exact ih hfront.2 h

/-- The text of a rule's comment. -/
def suppressionText (rule : String) : List Char :=
  " eslint-disable ".toList ++ (rule.toList ++ [' '])

-- Lean's own equations are slow to come by, for the texts in them.
theorem suppression_eq (rule : String) :
    suppression rule = "/* eslint-disable " ++ rule ++ " */" := rfl

theorem suppressionText_eq (rule : String) :
    suppressionText rule = " eslint-disable ".toList ++ (rule.toList ++ [' ']) := rfl

theorem toList_suppression (rule : String) :
    (suppression rule).toList = '/' :: '*' :: (suppressionText rule ++ ['*', '/']) := by
  have hopen : "/* eslint-disable ".toList = '/' :: '*' :: " eslint-disable ".toList := by
    decide
  have hclose : " */".toList = [' '] ++ ['*', '/'] := by decide
  simp only [suppression_eq, suppressionText_eq, String.toList_append, hopen, hclose,
    List.cons_append, List.append_assoc]

theorem infix_suppressionText_iff :
    ['*', '/'] <:+: suppressionText rule ↔ ['*', '/'] <:+: rule.toList := by
  have hblank : ¬ ['*', '/'] <:+ rule.toList ++ [' '] := by
    rintro ⟨before, heq⟩
    have hlast := congrArg List.getLast? heq
    simp at hlast
  rw [suppressionText_eq, infix_behind_iff (by decide), List.infix_concat_iff,
    or_iff_right hblank]

/-- The line of a rule is one comment exactly if the rule has no `*/`. -/
theorem blockComment?_suppression_iff (rule : String) (rest : List Char) :
    blockComment? ((suppression rule).toList ++ rest) = some (suppressionText rule, rest) ↔
      ¬ ['*', '/'] <:+: rule.toList := by
  have htext : (suppression rule).toList ++ rest
      = '/' :: '*' :: (suppressionText rule ++ '*' :: '/' :: rest) := by
    rw [toList_suppression]
    simp only [List.cons_append, List.append_assoc, List.nil_append]
  rw [htext, blockComment?, untilClose_eq_some_iff, and_iff_right rfl, infix_suppressionText_iff]

/-- Otherwise it is one up to the `*/` of the rule, and code from there. -/
theorem blockComment?_suppression (h : untilClose rule.toList = some (body, code))
    (rest : List Char) :
    blockComment? ((suppression rule).toList ++ rest)
      = some (" eslint-disable ".toList ++ body, code ++ " */".toList ++ rest) := by
  obtain ⟨hrule, hopen⟩ := untilClose_eq_some_iff.1 h
  have htext : (suppression rule).toList ++ rest = '/' :: '*' ::
      (" eslint-disable ".toList ++ body ++ '*' :: '/' :: (code ++ " */".toList ++ rest)) := by
    have hclose : " */".toList = [' ', '*', '/'] := by decide
    rw [toList_suppression, suppressionText_eq, hrule, hclose]
    simp only [List.cons_append, List.append_assoc, List.nil_append]
  rw [htext, blockComment?, untilClose_eq_some_iff]
  exact ⟨rfl, fun hinfix => hopen ((infix_behind_iff (by decide)).1 hinfix)⟩

/-! ## The lines -/

/-- Where no rule has a `*/`, comments only are put in front of the rest. -/
theorem comments_suppressions (h : ∀ rule ∈ rules.rules, ¬ ['*', '/'] <:+: rule.toList)
    (rest : List Char) : Comments ((suppressions rules).toList ++ rest) rest := by
  rw [suppressions]
  generalize rules.rules = ids at h
  induction ids with
  | nil => exact .done rest
  | cons rule ids ih =>
    rw [List.forall_mem_cons] at h
    simp only [List.map_cons, List.foldr_cons, String.toList_append, List.append_assoc]
    exact .block ((blockComment?_suppression_iff rule _).2 h.1) (.lineEnd rfl (ih h.2))

/-- The pieces between LFs are those of the lines. -/
theorem pieces_lines (ls : List String) :
    Text.pieces '\n' (ls.foldr (fun line rest => line ++ "\n" ++ rest) "").toList
      = ls.flatMap (fun line => Text.pieces '\n' line.toList) ++ [[]] := by
  induction ls with
  | nil => rfl
  | cons line ls ih =>
    rw [List.flatMap_cons, List.append_assoc, ← ih]
    simp only [List.foldr_cons, String.toList_append, List.append_assoc]
    exact Text.pieces_append_sep '\n' line.toList _

/-- Lines without LFs are what stands between the LFs. -/
theorem pieces_lines_of_not_mem {ls : List String} (h : ∀ line ∈ ls, '\n' ∉ line.toList) :
    Text.pieces '\n' (ls.foldr (fun line rest => line ++ "\n" ++ rest) "").toList
      = ls.map String.toList ++ [[]] := by
  rw [pieces_lines, List.map_eq_flatMap]
  congr 1
  exact List.flatMap_congr fun line hline => Text.pieces_of_not_mem (h line hline)

theorem newline_mem_suppression_iff : '\n' ∈ (suppression rule).toList ↔ '\n' ∈ rule.toList := by
  simp [toList_suppression, suppressionText_eq]

/-- The header has the lines it is made of exactly if no rule has an LF. -/
theorem pieces_build_iff (hremark : '\n' ∉ remark.toList) (rules : RuleSet) :
    Text.pieces '\n' (build remark rules).toList
        = (lines remark rules).map String.toList ++ [[]] ↔
      ∀ rule ∈ rules.rules, '\n' ∉ rule.toList := by
  have hlines : (∀ rule ∈ rules.rules, '\n' ∉ rule.toList) ↔
      ∀ line ∈ lines remark rules, '\n' ∉ line.toList := by
    simp [lines, hremark, newline_mem_suppression_iff]
  rw [hlines]
  constructor
  · intro h line hline
    have hpiece : line.toList ∈ Text.pieces '\n' (build remark rules).toList := by
      rw [h]
      exact List.mem_append_left _ (List.mem_map_of_mem hline)
    exact Text.not_mem_of_mem_pieces hpiece
  · exact pieces_lines_of_not_mem

theorem suppression_injective : Function.Injective suppression := by
  intro r s h
  have htext := congrArg String.toList h
  rw [toList_suppression, toList_suppression, suppressionText_eq, suppressionText_eq] at htext
  exact String.toList_inj.1 (by simpa using htext)

/-- Under one and the same text, headers tell the rules and their order. -/
theorem build_inj {rules' : RuleSet} (h : ∀ rule ∈ rules.rules, '\n' ∉ rule.toList)
    (h' : ∀ rule ∈ rules'.rules, '\n' ∉ rule.toList) :
    build remark rules = build remark rules' ↔ rules.rules = rules'.rules := by
  have hpieces {t : RuleSet} (ht : ∀ rule ∈ t.rules, '\n' ∉ rule.toList) :
      Text.pieces '\n' (suppressions t).toList
        = (t.rules.map suppression).map String.toList ++ [[]] :=
    pieces_lines_of_not_mem (by simpa [newline_mem_suppression_iff] using ht)
  constructor
  · intro heq
    have hbelow : (suppressions rules).toList = (suppressions rules').toList := by
      simpa [build_eq] using congrArg String.toList heq
    have hlines := congrArg (Text.pieces '\n') hbelow
    rw [hpieces h, hpieces h', List.append_cancel_right_eq] at hlines
    have htexts := (List.map_inj_right fun _ _ => String.toList_inj.1).1 hlines
    exact (List.map_inj_right fun _ _ e => suppression_injective e).1 htexts
  · intro heq
    rw [RuleSet.ext heq]

theorem count_lines (ls : List String) :
    (ls.foldr (fun line rest => line ++ "\n" ++ rest) "").toList.count '\n'
      = ls.length + (ls.flatMap String.toList).count '\n' := by
  induction ls with
  | nil => rfl
  | cons line ls ih =>
    have hnewline : "\n".toList.count '\n' = 1 := by decide
    rw [List.flatMap_cons, List.length_cons]
    simp only [List.foldr_cons, String.toList_append, List.count_append, ih, hnewline]
    omega

theorem count_suppressions (ids : List String) :
    ((ids.map suppression).flatMap String.toList).count '\n'
      = (ids.flatMap String.toList).count '\n' := by
  induction ids with
  | nil => rfl
  | cons rule ids ih =>
    rw [List.map_cons, List.flatMap_cons, List.flatMap_cons, List.count_append, List.count_append,
      ih]
    simp [toList_suppression, suppressionText_eq, List.count_append]

/-- Each LF of a rule makes one line more. -/
theorem count_build (hremark : '\n' ∉ remark.toList) (rules : RuleSet) :
    (build remark rules).toList.count '\n'
      = rules.size + 1 + (rules.rules.flatMap String.toList).count '\n' := by
  have hfirst : ("// " ++ remark).toList.count '\n' = 0 :=
    List.count_eq_zero.2 (by simpa [String.toList_append] using hremark)
  rw [build, count_lines, lines, List.flatMap_cons, List.count_append, hfirst, count_suppressions,
    List.length_cons, List.length_map, RuleSet.size]
  omega

/-! ## Headers for a report -/

/--
A report names some texts as rules, each of which gets one line of a header, at its first mention.
These are the lines of the header exactly if no rule has an LF, and each LF makes one line more.
The comment of a rule goes up to the end of its line exactly if the rule has no `*/`, and otherwise
up to that, with code behind it. If no rule has one, there are only comments below the first line;
that line is one as well if the configured text has no line terminator.
-/
theorem header_of_report {file : Path} {bytes : ByteArray} {rules : RuleSet}
    (h : (LintReport.read file bytes).value = .ok rules) {remark : String}
    (hremark : '\n' ∉ remark.toList) :
    (∃ results, LintReport.results bytes = .ok results ∧
      rules.rules = (results.flatten.filterMap (·.rule)).eraseDups) ∧
    (rules.rules.map suppression).Nodup ∧
    (Text.pieces '\n' (build remark rules).toList
        = ("// " ++ remark).toList ::
          rules.rules.map (fun rule => ("/* eslint-disable " ++ rule ++ " */").toList) ++ [[]] ↔
      ∀ rule ∈ rules.rules, '\n' ∉ rule.toList) ∧
    (build remark rules).toList.count '\n'
      = rules.size + 1 + (rules.rules.flatMap String.toList).count '\n' ∧
    (∀ rule ∈ rules.rules, ∀ rest,
      (blockComment? ((suppression rule).toList ++ rest) = some (suppressionText rule, rest) ↔
        ¬ ['*', '/'] <:+: rule.toList) ∧
      ∀ body code, untilClose rule.toList = some (body, code) →
        blockComment? ((suppression rule).toList ++ rest)
          = some (" eslint-disable ".toList ++ body, code ++ " */".toList ++ rest)) ∧
    ((∀ rule ∈ rules.rules, ¬ ['*', '/'] <:+: rule.toList) → ∀ content : String,
      Comments (suppressions rules ++ content).toList content.toList ∧
      ((∀ a ∈ remark.toList, isLineTerminator a = false) →
        Comments (build remark rules ++ content).toList content.toList)) := by
  have hlines : (lines remark rules).map String.toList = ("// " ++ remark).toList ::
      rules.rules.map fun rule => ("/* eslint-disable " ++ rule ++ " */").toList := by
    rw [lines, List.map_cons, List.map_map]
    rfl
  refine ⟨?_, ?_, ?_, count_build hremark rules, ?_, ?_⟩
  · unfold LintReport.read at h
    split at h
    · cases h
    · rename_i results hresults
      cases h
      exact ⟨results, hresults, RuleSet.rules_ofList _⟩
  · exact rules.nodup.map suppression_injective
  · rw [← hlines]
    exact pieces_build_iff hremark rules
  · exact fun rule _ rest => ⟨blockComment?_suppression_iff rule rest,
      fun _ _ hclose => blockComment?_suppression hclose rest⟩
  · intro hopen content
    have hbelow : Comments (suppressions rules ++ content).toList content.toList := by
      rw [String.toList_append]
      exact comments_suppressions hopen content.toList
    exact ⟨hbelow, fun hline =>
      .line ((lineComment?_build_iff remark rules content).2 hline) (.lineEnd rfl hbelow)⟩

/-- A report with two rules, of which one is named twice. -/
def plainReport : ByteArray :=
  ("[\x7b\"messages\":[\x7b\"ruleId\":\"semi\"\x7d,\x7b\"ruleId\":\"quotes\"\x7d," ++
    "\x7b\"ruleId\":\"semi\"\x7d]\x7d]").toUTF8

/-- A report with a rule that has a `*/`, and one that has an LF. -/
def brokenReport : ByteArray :=
  ("[\x7b\"messages\":[\x7b\"ruleId\":\"x*/alert(1)\"\x7d," ++
    "\x7b\"ruleId\":\"a\\nb\"\x7d]\x7d]").toUTF8

/-- The header for the report of two rules has three lines and is made of comments. -/
theorem header_of_report_plain :
    (LintReport.read ⟨"/a.js"⟩ plainReport).value = .ok (RuleSet.ofList ["semi", "quotes"]) ∧
      '\n' ∉ "TODO".toList ∧
      (build "TODO" (RuleSet.ofList ["semi", "quotes"])).toList.count '\n' = 3 ∧
      Comments (build "TODO" (RuleSet.ofList ["semi", "quotes"]) ++ "x = 1\n").toList
        "x = 1\n".toList := by
  have hread : (LintReport.read ⟨"/a.js"⟩ plainReport).value
      = .ok (RuleSet.ofList ["semi", "quotes"]) := by decide +kernel
  have hremark : '\n' ∉ "TODO".toList := by decide
  have hopen : ∀ rule ∈ (RuleSet.ofList ["semi", "quotes"]).rules,
      untilClose rule.toList = none := by
    decide
  obtain ⟨-, -, -, hcount, -, hcomments⟩ := header_of_report hread hremark
  refine ⟨hread, hremark, hcount.trans (by decide), ?_⟩
  exact (hcomments (fun rule hrule => untilClose_eq_none_iff.1 (hopen rule hrule)) "x = 1\n").2
    (by simp [isLineTerminator])

/-- From a report, code gets into a header, and a line more than there are rules. -/
theorem header_breaks_out :
    (LintReport.read ⟨"/a.js"⟩ brokenReport).value
        = .ok (RuleSet.ofList ["x*/alert(1)", "a\nb"]) ∧
      blockComment? (suppressions (RuleSet.ofList ["x*/alert(1)", "a\nb"])).toList
        = some (" eslint-disable x".toList,
            "alert(1) */\n/* eslint-disable a\nb */\n".toList) ∧
      (build "TODO" (RuleSet.ofList ["x*/alert(1)", "a\nb"])).toList.count '\n' = 4 :=
  ⟨by decide +kernel, by decide, by decide⟩

end Header
end BulkSuppress
