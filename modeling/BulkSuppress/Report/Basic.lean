import BulkSuppress.Failure
import BulkSuppress.Path.Order

/-
  Reports: what became of each file of a batch. Every file is either among the outcomes or among
  the failures.
-/

namespace BulkSuppress

/-- What became of a file whose pipeline reached its end. -/
inductive Outcome where
  /-- The file violates no rule and was not touched. -/
  | clean
  /-- A header for this many rules was put in front of the file. -/
  | annotated (rules : Nat)
  /-- A header for this many rules would be put in front of the file. -/
  | wouldAnnotate (rules : Nat)
deriving DecidableEq, Repr

/-- The number of rules that a header disables or would disable. -/
def Outcome.rules? : Outcome → Option Nat
  | .clean => none
  | .annotated n | .wouldAnnotate n => some n

/-- A file whose pipeline failed. -/
structure FileFailure where
  path : Path
  failure : Failure
deriving DecidableEq, Repr

/-- The failure with the file it belongs to. -/
def FileFailure.message (f : FileFailure) : String :=
  f.path.text ++ ": " ++ f.failure.message

/-- A span of time. -/
structure Duration where
  seconds : Nat := 0
  nanoseconds : Nat := 0
deriving DecidableEq, Repr

/-- The whole milliseconds of a span, modulo 2^64. -/
def Duration.milliseconds (d : Duration) : Nat :=
  (d.seconds * 1000 + d.nanoseconds / 1000000) % Nat.pow 2 64

/-- What became of the files of a batch. -/
structure BatchReport where
  outcomes : List (Path × Outcome) := []
  failures : List FileFailure := []
  elapsed : Duration := {}
deriving DecidableEq, Repr

namespace BatchReport

/-- The number of files. -/
def total (r : BatchReport) : Nat :=
  r.outcomes.length + r.failures.length

/-- The files that got or would get a header, with the number of its rules. -/
def annotated (r : BatchReport) : List (Path × Nat) :=
  r.outcomes.filterMap fun o => o.2.rules?.map fun n => (o.1, n)

/-- The number of rules in all headers. -/
def rulesDisabled (r : BatchReport) : Nat :=
  (r.annotated.map (·.2)).foldr (· + ·) 0

/-- The number of files without a violation. -/
def cleanCount (r : BatchReport) : Nat :=
  r.outcomes.countP fun o => o.2 == .clean

/-- Some file failed. -/
def hasFailures (r : BatchReport) : Bool :=
  !r.failures.isEmpty

/-- The report with its files in the order of their paths. -/
def sort (r : BatchReport) : BatchReport :=
  { r with outcomes := Path.sortOn (·.1) r.outcomes, failures := Path.sortOn (·.path) r.failures }

end BatchReport
end BulkSuppress
