import BulkSuppress.Batch.Run
import BulkSuppress.Config
import BulkSuppress.Discovery
import BulkSuppress.Eslint

/-
  A session: from a configuration to the report of its files. The ignore file is read and the
  files are found first; what goes wrong there ends the session. What goes wrong with a file is in
  the report.
-/

namespace BulkSuppress.Session

/-- The files that a configuration is about. -/
def discover (c : Config) (d : Disk) : Logged (Except Failure (List Path)) := do
  let ignored ← Exclusion.IgnoreList.load d c.ignoreFile
  match Discoverer.make c.baseDir c.pattern c.projectRoot ignored.patterns with
  | .error e => return .error e
  | .ok made => (← made).discover d

/-- The annotator of a configuration. -/
def annotator (c : Config) : Annotator := ⟨c.remark, c.dryRun⟩

/--
Find the files and process them with the engine. Nothing comes back when more pipelines are asked
for than there can be.
-/
def run (engine : Engine) (c : Config) (d : Disk) :
    Logged (Except Failure (Option Batch.Result)) := do
  match ← discover c d with
  | .error e => return .error e
  | .ok files =>
    Logged.report (.debug ("Found " ++ toString files.length ++ " file(s) to lint"))
    match Batch.run engine (annotator c) c.concurrency d files with
    | none => return .ok none
    | some result => return .ok (some (← result))

/--
Find the files and process them with the ESLint of the project. The disk is as it is left when
there is no report.
-/
def runEslint (launch : Launcher) (c : Config) (d : Disk) :
    Logged (Disk × Except Failure (Option Batch.Result)) := do
  match ← Eslint.locate launch d c.projectRoot with
  | (d', .error e) => return (d', .error e)
  | (d', .ok x) => return (d', ← run (x.engine launch) c d')

end BulkSuppress.Session
