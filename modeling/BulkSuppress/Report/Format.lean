import BulkSuppress.Json.Document
import BulkSuppress.Report.Basic

/-
  Reports for readers: a summary line, a line for each failure, or a JSON document. Paths are
  shown relative to the project root where they lie below it. On a terminal, what went well is
  green and what failed is red.
-/

namespace BulkSuppress

/-- How a report is shown. -/
structure Formatter where
  /-- Lines are coloured. -/
  colored : Bool := false
  /-- The report is of a run that wrote nothing. -/
  dryRun : Bool := false
  /-- The directory that paths are shown relative to. -/
  projectRoot : Option Path := none
deriving DecidableEq, Repr

/-- The colours of lines. -/
inductive Paint where
  | red | green
deriving DecidableEq, Repr

namespace Paint

/-- The escape sequence that starts a colour. -/
def code : Paint → List Char
  | .red => ['\x1b', '[', '3', '1', 'm']
  | .green => ['\x1b', '[', '3', '2', 'm']

/-- The escape sequence that ends all colours. -/
def reset : List Char := ['\x1b', '[', '0', 'm']

/-- The text with the colour started again wherever something inside ends it. -/
def resume (p : Paint) : List Char → List Char
  | '\x1b' :: '[' :: '0' :: 'm' :: rest => reset ++ p.code ++ resume p rest
  | c :: rest => c :: resume p rest
  | [] => []

/-- The text in the colour. -/
def apply (p : Paint) (text : String) : String :=
  String.ofList (p.code ++ resume p text.toList ++ reset)

end Paint

namespace Formatter

variable (f : Formatter)

/-- The text in a colour, if lines are coloured. -/
def paint (p : Paint) (text : String) : String :=
  if f.colored then p.apply text else text

/-- A path as it is shown. -/
def display (p : Path) : String :=
  match f.projectRoot with
  | none => p.text
  | some root => ((p.stripPrefix? root).getD p).text

/-- The summary line. -/
def summary (r : BatchReport) : String :=
  let total := toString r.total
  let annotated := toString r.annotated.length
  if r.hasFailures then
    f.paint .red ("Failed to process " ++ toString r.failures.length ++ " of " ++ total ++
      " files; ESLint errors disabled for " ++ annotated ++ ".")
  else if f.dryRun then
    f.paint .green ("Dry run: ESLint errors would be disabled for " ++ annotated ++ " of " ++
      total ++ " files (" ++ toString r.rulesDisabled ++ " rules).")
  else
    f.paint .green ("ESLint errors disabled for " ++ annotated ++ " of " ++ total ++ " files.")

/-- The line of one failed file. -/
def failureLine (x : FileFailure) : String :=
  f.paint .red ("Error: " ++ f.display x.path ++ ": " ++ x.failure.message)

/-- The lines of the failed files. -/
def failureLines (r : BatchReport) : List String :=
  r.failures.map f.failureLine

/-- The line of a failure that stops the run. -/
def errorLine (e : Failure) : String :=
  f.paint .red ("Error: " ++ e.message)

/-- The word for what became of a file. -/
def status : Outcome → String
  | .clean => "clean"
  | .annotated _ => "annotated"
  | .wouldAnnotate _ => "would_annotate"

/-- A file that reached its end, as part of the document. -/
def fileEntry (x : Path × Outcome) : Json.Document :=
  .object [("path", .string (f.display x.1)), ("rules", .number (x.2.rules?.getD 0)),
    ("status", .string (status x.2))]

/-- A file that failed, as part of the document. -/
def failureEntry (x : FileFailure) : Json.Document :=
  .object [("error", .string x.failure.message), ("path", .string (f.display x.path))]

/-- The report as a document; keys are in alphabetical order. -/
def document (r : BatchReport) : Json.Document :=
  .object [
    ("dry_run", .boolean f.dryRun),
    ("failures", .list (r.failures.map f.failureEntry)),
    ("files", .list (r.outcomes.map f.fileEntry)),
    ("summary", .object [
      ("annotated", .number r.annotated.length),
      ("clean", .number r.cleanCount),
      ("elapsed_ms", .number r.elapsed.milliseconds),
      ("failed", .number r.failures.length),
      ("rules_disabled", .number r.rulesDisabled),
      ("total_files", .number r.total)])]

/-- The report as JSON text. -/
def json (r : BatchReport) : String :=
  (f.document r).toText

end Formatter
end BulkSuppress
