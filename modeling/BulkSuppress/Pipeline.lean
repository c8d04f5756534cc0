import BulkSuppress.Disk.Resolve
import BulkSuppress.Engine
import BulkSuppress.Header
import BulkSuppress.Report.Basic

/-
  The pipeline of one file: lint it, read it, write it back with a header in front. Each of the
  three is a step of its own, so that pipelines of different files can take turns. A file without
  violations is not read, and in a dry run none is.
-/

namespace BulkSuppress

/-- How headers are put in front of files. -/
structure Annotator where
  /-- The text of a header's first line. -/
  remark : String
  /-- Say what would be done, and do nothing. -/
  dryRun : Bool := false
deriving DecidableEq, Repr

namespace Pipeline

/-- How a pipeline ended. -/
inductive Ending where
  | finished (o : Outcome)
  | failed (why : Failure)
  | panicked (text : String)
deriving DecidableEq, Repr

/-- Where a pipeline is. -/
inductive Stage where
  | linting
  /-- The file has to be read for a header of these rules. -/
  | reading (rules : RuleSet)
  /-- The file has to be written, with a header in front of what was read. -/
  | writing (rules : RuleSet) (content : String)
  | ended (how : Ending)

/-- The pipeline has not ended. -/
def Stage.isLive : Stage → Bool
  | .ended _ => false
  | _ => true

/-- The number of steps that a pipeline still takes at most. -/
def Stage.toGo : Stage → Nat
  | .linting => 3
  | .reading _ => 2
  | .writing _ _ => 1
  | .ended _ => 0

/-- What is said about a file that gets a header. -/
def rulesEvents (a : Annotator) (p : Path) (rules : RuleSet) : List Event :=
  (if Header.fits p then []
    else [.warn (p.text ++ " may not support `//` comments; the header could be invalid syntax")])
  ++ (if a.dryRun then
      [.info ("Would disable in " ++ p.text ++ ": " ++ ", ".intercalate rules.rules)]
    else [])

/-- Take the rules of a file up; the ending, if there is nothing to be written. -/
def takeRules (a : Annotator) (p : Path) (rules : RuleSet) : Logged (Option Ending) :=
  if rules.isEmpty then ⟨some (.finished .clean), []⟩
  else
    ⟨if a.dryRun then some (.finished (.wouldAnnotate rules.size)) else none,
      rulesEvents a p rules⟩

/-- Read the file as text. -/
def read (d : Disk) (p : Path) : Logged (Except Failure String) :=
  match d.readText p with
  | .error e => ⟨.error (.fileAccess .read p e), []⟩
  | .ok content =>
    ⟨.ok content,
      if content.toList.take 2 = ['#', '!'] then
        [.warn (p.text ++ " starts with a shebang; the header is placed above it")]
      else []⟩

/-- Write the file with a header in front of `content`. -/
def write (a : Annotator) (d : Disk) (p : Path) (rules : RuleSet) (content : String) :
    Logged (Disk × Ending) :=
  match d.writeBytes p (Utf8.encode (Header.build a.remark rules ++ content)) with
  | .error e => ⟨(d, .failed (.fileAccess .write p e)), []⟩
  | .ok d' => ⟨(d', .finished (.annotated rules.size)), [.debug ("Processing file: " ++ p.text)]⟩

/-- Put a header of the rules in front of the file. -/
def annotate (a : Annotator) (d : Disk) (p : Path) (rules : RuleSet) :
    Logged (Disk × Ending) := do
  match ← takeRules a p rules with
  | some how => return (d, how)
  | none =>
    match ← read d p with
    | .error why => return (d, .failed why)
    | .ok content => write a d p rules content

/-- Lint the file and put a header of the violated rules in front of it. -/
def process (engine : Engine) (a : Annotator) (d : Disk) (p : Path) :
    Logged (Disk × Ending) := do
  match ← engine.lint d p with
  | (d', .failed why) => return (d', .failed why)
  | (d', .panicked text) => return (d', .panicked text)
  | (d', .rules rules) => annotate a d' p rules

/-! ## Step by step -/

/-- The stage after the file was linted with a verdict. -/
def verdictStep (a : Annotator) (p : Path) : Verdict → Logged Stage
  | .failed why => return .ended (.failed why)
  | .panicked text => return .ended (.panicked text)
  | .rules rules => do
    match ← takeRules a p rules with
    | some how => return .ended how
    | none => return .reading rules

/-- The stage after the file was read. -/
def readStep (d : Disk) (p : Path) (rules : RuleSet) : Logged Stage := do
  match ← read d p with
  | .error why => return .ended (.failed why)
  | .ok content => return .writing rules content

/-- The next step of a pipeline. A pipeline that has ended stays as it is. -/
def step (engine : Engine) (a : Annotator) (p : Path) (d : Disk) :
    Stage → Logged (Disk × Stage)
  | .linting => do
    let r ← engine.lint d p
    return (r.1, ← verdictStep a p r.2)
  | .reading rules => do return (d, ← readStep d p rules)
  | .writing rules content => do
    let r ← write a d p rules content
    return (r.1, .ended r.2)
  | .ended how => return (d, .ended how)

/-- Every step of a live pipeline brings it closer to its end. -/
theorem toGo_step (engine : Engine) (a : Annotator) (p : Path) (d : Disk) (s : Stage)
    (h : s.isLive = true) : (step engine a p d s).value.2.toGo < s.toGo := by
  cases s with
  | linting =>
    simp only [step, Logged.value_bind, Logged.value_pure]
    cases (engine.lint d p).value.2 with
    | failed why => simp [verdictStep, Stage.toGo]
    | panicked text => simp [verdictStep, Stage.toGo]
    | rules rules =>
      simp only [verdictStep, Logged.value_bind]
      split <;> simp [Stage.toGo]
  | reading rules =>
    simp only [step, readStep, Logged.value_bind, Logged.value_pure]
    split <;> simp [Stage.toGo]
  | writing rules content => simp [step, Stage.toGo]
  | ended how => simp [Stage.isLive] at h

end Pipeline
end BulkSuppress
