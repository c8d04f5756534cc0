import BulkSuppress.Disk.Basic
import BulkSuppress.Failure
import BulkSuppress.RuleSet

/-
  Linting engines: what tells the rules that a file violates. An engine is a program of its own,
  which may look at the disk and may also change it.
-/

namespace BulkSuppress

/-- What an engine makes of one file. -/
inductive Verdict where
  | rules (violated : RuleSet)
  | failed (why : Failure)
  /-- The engine gave up on itself. -/
  | panicked (text : String)

/-- A linting engine. -/
structure Engine where
  /-- The name that log events give it. -/
  name : String
  /-- The verdict on the file that a path names, and the disk as the engine leaves it. -/
  lint : Disk → Path → Logged (Disk × Verdict)

end BulkSuppress
