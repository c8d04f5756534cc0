import BulkSuppress.Disk.Basic
import BulkSuppress.Text.Blank
import BulkSuppress.Text.Utf8

/-
  Processes: programs that run to their end and leave output behind. A launcher is what starts
  them; a process may change the disk.
-/

namespace BulkSuppress

/-- How a process ended. -/
inductive ExitStatus where
  | exited (code : Nat)
  /-- A signal put an end to it. -/
  | signalled
deriving DecidableEq, Repr

/-- The process ended well. -/
def ExitStatus.isSuccess (s : ExitStatus) : Bool := s = .exited 0

/-- A process that has ended. -/
structure Finished where
  status : ExitStatus
  /-- What it wrote to its output. -/
  out : ByteArray := .empty
  /-- What it wrote to its error output. -/
  err : ByteArray := .empty

/--
What starts the program `executable` in the directory `directory`, and waits for its end; the disk
is as the process leaves it.
-/
abbrev Launcher :=
  (disk : Disk) → (directory executable : Path) → (arguments : List String) →
    Except SystemError (Disk × Finished)

namespace Finished

/-- The output as text, without blanks around it. -/
def outText (f : Finished) : String := Text.trimString (Utf8.decodeLossy f.out)

/-- The error output as text, without blanks around it. -/
def errText (f : Finished) : String := Text.trimString (Utf8.decodeLossy f.err)

end Finished
end BulkSuppress
