import BulkSuppress.Path.Basic
import BulkSuppress.RuleSet

/-
  Suppression headers: a line comment with the configured text, then one block comment a line
  for each rule, disabling it for the rest of the file.
-/

namespace BulkSuppress.Header

/-- The comment that disables one rule for the rest of a file. -/
def suppression (rule : String) : String :=
  "/* eslint-disable " ++ rule ++ " */"

/-- The header's lines without their line ends. -/
def lines (remark : String) (rules : RuleSet) : List String :=
  ("// " ++ remark) :: rules.rules.map suppression

/-- The header that is put in front of a file. -/
def build (remark : String) (rules : RuleSet) : String :=
  (lines remark rules).foldr (fun line rest => line ++ "\n" ++ rest) ""

/-- The extensions of the files whose syntax has line comments. -/
def lineCommentExtensions : List String :=
  ["js", "jsx", "mjs", "cjs", "ts", "tsx", "mts", "cts"]

/-- A line comment is valid syntax in the file, judged by its extension without regard to case. -/
def fits (p : Path) : Bool :=
  match p.extension? with
  | some ext => lineCommentExtensions.contains (String.ofList (ext.toList.map Char.toLower))
  | none => false

end BulkSuppress.Header
