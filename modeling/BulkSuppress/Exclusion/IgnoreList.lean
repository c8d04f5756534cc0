import BulkSuppress.Disk.Resolve
import BulkSuppress.Log
import BulkSuppress.Text.Blank
import BulkSuppress.Text.Lines

/-
  Ignore files: one exclusion pattern a line, blank lines and lines that start with `#` left out,
  blanks at the end of a line dropped.
-/

namespace BulkSuppress.Exclusion

/-- The patterns of an ignore file, in order. -/
structure IgnoreList where
  patterns : List String := []
deriving DecidableEq, Repr

namespace IgnoreList

/-- A line that holds a pattern. -/
def isPatternLine (line : List Char) : Bool :=
  !Text.isAllBlank line && line.head? != some '#'

/-- The pattern lines among the lines, without the blanks at their ends. -/
def patternsOf (lines : List (List Char)) : List String :=
  (lines.filter isPatternLine).map fun line => String.ofList (Text.trimEnd line)

/-- The patterns of a text. -/
def parse (content : String) : IgnoreList :=
  ⟨patternsOf (Text.lines content.toList)⟩

/-- The patterns of a file; there are none if it cannot be read as text. -/
def load (d : Disk) (p : Path) : Logged IgnoreList :=
  match d.readText p with
  | .ok content =>
    let list := parse content
    ⟨list, [.debug ("Loaded " ++ toString list.patterns.length ++ " ignore pattern(s) from " ++
      p.text)]⟩
  | .error e => ⟨{}, [.debug ("No " ++ p.text ++ " file found (" ++ e.message ++ ")")]⟩

end IgnoreList
end BulkSuppress.Exclusion
