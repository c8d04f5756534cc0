import BulkSuppress.Shell.Builtin.Directory
import BulkSuppress.Shell.Builtin.Job
import BulkSuppress.Shell.Builtin.Lookup
import BulkSuppress.Shell.Builtin.Variable
import BulkSuppress.Shell.Format
import BulkSuppress.Shell.Test

/-
  The commands that are part of the shell itself and run no other commands. Each takes its
  arguments and notes how it ended; one that fails ends what is running, and it depends on the
  command whether the script goes on.
-/

namespace BulkSuppress.Shell.Builtin

/-! ## Output -/

/-- Write the arguments with blanks between them. -/
def echo (args : List Octets) : Run Unit := do
  Run.write (Format.echoed args)
  Run.status 0

/-- The wording of what is wrong with a format or an argument. -/
def faultText : Format.Fault → Octets
  | .notNumeric cs => cs ++ ": expected numeric value".toList
  | .incomplete cs => cs ++ ": not completely converted".toList
  | .outOfRange cs => cs ++ ": Numerical result out of range".toList
  | .badDirective cs => cs ++ ": invalid directive".toList
  | .noLetter _ => "missing format character".toList

/-- Write the arguments as a format says. -/
def printf (args : List Octets) : Run Unit := do
  let (_, rest) ← options "" args
  match rest with
  | [] => Run.fail "usage: printf format [arg ...]".toList
  | format :: rest =>
    let p := Format.printed {} format rest
    p.warnings.forM fun w => Run.warn (faultText w.1)
    match p.problem with
    | some fault =>
      Run.warn (faultText fault)
      Run.write p.out
      throw (.failed 2)
    | none =>
      Run.write p.out
      Run.status (if p.warnings.isEmpty then 0 else 1)

/-! ## Conditions -/

/-- Decide a condition. -/
def test (args : List Octets) : Run Unit := do
  match Test.outcome (← get) args with
  | .ok r => Run.status (if r then 0 else 1)
  | .error why => Run.fail why.message

/-- Decide a condition in brackets, of which the last argument is the closing one. -/
def bracketTest (args : List Octets) : Run Unit := do
  if args.getLast? = some [']'] then test args.dropLast else Run.fail "missing ]".toList

/-! ## All commands -/

/-- Write how much time has been used, which is none that counts. -/
def times : Run Unit := do
  Run.write "0m0.000000s 0m0.000000s\n0m0.000000s 0m0.000000s\n".toList
  Run.status 0

/-- The action of a command that is part of the shell. -/
def action? (name : String) : Option (List Octets → Run Unit) :=
  match name with
  | ":" | "true" => some fun _ => Run.status 0
  | "false" => some fun _ => Run.status 1
  | "echo" => some echo
  | "printf" => some printf
  | "test" => some test
  | "[" => some bracketTest
  | "cd" | "chdir" => some cd
  | "pwd" => some pwd
  | "export" => some exports
  | "readonly" => some readonly
  | "local" => some locals
  | "unset" => some unset
  | "set" => some settings
  | "shift" => some shift
  | "getopts" => some getopts
  | "read" => some read
  | "type" => some types
  | "hash" => some hash
  | "kill" => some kill
  | "wait" => some wait
  | "trap" => some trap
  | "umask" => some umask
  | "times" => some fun _ => times
  | "alias" => some aliasing
  | "unalias" => some unalias
  | "ulimit" => some fun _ => do
    Run.write "unlimited\n".toList
    Run.status 0
  | "jobs" => some jobs
  | "bg" | "fg" => some resume
  | _ => none

end BulkSuppress.Shell.Builtin