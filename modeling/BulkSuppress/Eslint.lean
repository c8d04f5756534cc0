import BulkSuppress.Disk.Resolve
import BulkSuppress.Engine
import BulkSuppress.LintReport
import BulkSuppress.Process

/-
  ESLint as a linting engine: the executable that a project has installed, started anew for each
  file in the project's root. What it prints on success is a report in JSON.
-/

namespace BulkSuppress

/-- An installed ESLint that answers. -/
structure Eslint where
  executable : Path
  projectRoot : Path
  version : String
deriving DecidableEq, Repr

namespace Eslint

/-- The package that has to be installed. -/
def dependency : String := "eslint"

/-- Where a project has its ESLint. -/
def executablePath (projectRoot : Path) : Path :=
  ((projectRoot.child "node_modules").child ".bin").child "eslint"

/-- What a process wrote to its error output, or that there was nothing. -/
def diagnostics (f : Finished) : String :=
  let text := f.errText
  if text.isEmpty then "no diagnostic output" else text

/-- The ESLint of a project, asked for its version, and the disk as that leaves it. -/
def locate (launch : Launcher) (d : Disk) (projectRoot : Path) :
    Logged (Disk × Except Failure Eslint) :=
  let executable := executablePath projectRoot
  let unavailable (d : Disk) (why : EngineProblem) : Logged (Disk × Except Failure Eslint) :=
    ⟨(d, .error (.engineUnavailable dependency projectRoot why)), []⟩
  if !d.isFile executable then unavailable d (.missing executable)
  else match launch d projectRoot executable ["--version"] with
    | .error e => unavailable d (.notStarted executable e)
    | .ok (d', f) =>
      if !f.status.isSuccess then unavailable d' (.probeFailed (diagnostics f))
      else
        let version := f.outText
        ⟨(d', .ok { executable, projectRoot, version }),
          [.debug ("Using ESLint " ++ version ++ " from " ++ executable.text)]⟩

/-- The arguments for linting one file. -/
def arguments (file : Path) : List String :=
  ["--format", "json", "--no-error-on-unmatched-pattern", file.text]

/-- What a finished ESLint says about a file. -/
def judge (file : Path) (f : Finished) : Logged (Except Failure RuleSet) :=
  match f.status with
  | .exited 0 | .exited 1 => LintReport.read file f.out
  | .exited code => ⟨.error (.lint file.text (.status code (diagnostics f))), []⟩
  | .signalled => ⟨.error (.lint file.text .killed), []⟩

/-- The rules that a file violates, and the disk as ESLint leaves it. -/
def lint (x : Eslint) (launch : Launcher) (d : Disk) (file : Path) :
    Logged (Disk × Except Failure RuleSet) :=
  match launch d x.projectRoot x.executable (arguments file) with
  | .error e => ⟨(d, .error (.lint file.text (.notStarted e))), []⟩
  | .ok (d', f) => do return (d', ← judge file f)

/-- The linting engine that asks an installed ESLint. -/
def engine (x : Eslint) (launch : Launcher) : Engine where
  name := dependency
  lint d file := do
    match ← x.lint launch d file with
    | (d', .ok rules) => return (d', .rules rules)
    | (d', .error why) => return (d', .failed why)

end Eslint
end BulkSuppress
