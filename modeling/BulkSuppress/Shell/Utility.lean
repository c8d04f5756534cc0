import BulkSuppress.Shell.Utility.Batches
import BulkSuppress.Shell.Utility.Copying
import BulkSuppress.Shell.Utility.Counts
import BulkSuppress.Shell.Utility.Cut
import BulkSuppress.Shell.Utility.Directories
import BulkSuppress.Shell.Utility.Ends
import BulkSuppress.Shell.Utility.Environment
import BulkSuppress.Shell.Utility.Find
import BulkSuppress.Shell.Utility.Grep
import BulkSuppress.Shell.Utility.Lines
import BulkSuppress.Shell.Utility.Linking
import BulkSuppress.Shell.Utility.Listing
import BulkSuppress.Shell.Utility.Output
import BulkSuppress.Shell.Utility.Resolve
import BulkSuppress.Shell.Utility.Rights
import BulkSuppress.Shell.Utility.Sed
import BulkSuppress.Shell.Utility.Sequence
import BulkSuppress.Shell.Utility.Sort
import BulkSuppress.Shell.Utility.Touch
import BulkSuppress.Shell.Utility.Translate
import BulkSuppress.Shell.Utility.Uniq
import BulkSuppress.Shell.Utility.Values

/-
  The utilities of the system by name. Some of them run other programs; how that is done is a
  parameter.
-/

namespace BulkSuppress.Shell.Utility

/-- The options at the front that say how to write arguments, and the arguments. -/
def echoOptions (lineEnd escapes : Bool) : List Octets → Bool × Bool × List Octets
  | ('-' :: c :: cs) :: rest =>
    let letters := c :: cs
    if letters.all "neE".toList.contains then
      let escapes := letters.foldl
        (fun e c => if c = 'e' then true else if c = 'E' then false else e) escapes
      echoOptions (lineEnd && !letters.contains 'n') escapes rest
    else (lineEnd, escapes, ('-' :: letters) :: rest)
  | args => (lineEnd, escapes, args)

/-- Write the arguments with blanks between them; escapes only count if that is asked for. -/
def echo : Action := fun args => do
  let (lineEnd, escapes, rest) := echoOptions true false args
  let text := Octets.join [' '] rest
  let (cs, stopped) := if escapes then Format.unescape text else (text, false)
  Run.write (cs ++ if lineEnd && !stopped then ['\n'] else [])
  return 0

section

variable (call : Caller)

/-- The name of a command that did not start. -/
def failedToRun (name : Octets) : Octets := "failed to run command ".toList ++ quoted name

/-- Run a program that is named behind options with the values of some letters. -/
def prefixed (name : String) (letters : String) (skipped : Nat) : Action := fun args =>
  withOptions { name, letters, inFront := true, failure := 125 } args fun _ operands => do
    match operands.drop skipped with
    | program :: rest => become call name failedToRun program rest
    | [] =>
      complain name "missing operand".toList
      hint name
      return 125

/-- Run a program for no longer than a time. -/
def timeout : Action := fun args =>
  withOptions { name := "timeout", letters := "k:s:vpf", inFront := true, failure := 125
                longs := [("kill-after", 'k'), ("signal", 's'), ("verbose", 'v'),
                  ("preserve-status", 'p'), ("foreground", 'f')] } args
    fun choices operands => do
    match operands with
    | time :: program :: rest =>
      match interval? time with
      | none =>
        complain "timeout" ("invalid time interval ".toList ++ quoted time)
        hint "timeout"
        return 125
      | some span =>
        let asked := (valueOf? choices "s").getD "TERM".toList
        match Signal.spelled? asked with
        | none =>
          complain "timeout" (quoted asked ++ ": invalid signal".toList)
          hint "timeout"
          return 125
        | some signal =>
          let start := (← get).clock
          match ← spawned call program rest with
          | .error e =>
            complainAbout "timeout" (failedToRun program) e
            return statusWithout e
          | .ok ended =>
            let m ← get
            let isOver := match span with
              | some (length + 1) => start + length + 1 < m.clock
              | _ => false
            if !isOver then
              match ended with
              | .killed signal => throw (.killed signal)
              | .exited status => return status
            else
              let limit := start + span.getD 0
              let stays (c : Chunk) : Bool := c.process ≠ m.process || c.time ≤ limit
              set { m with clock := limit, collected := m.collected.map (List.filter stays) }
              if chosen choices "v" then
                complain "timeout" ("sending signal ".toList ++ ((Signal.spelling? signal).getD "").toList ++
                  " to command ".toList ++ quoted program)
              if signal = 9 then throw (.killed 9)
              return if chosen choices "p" then 128 + signal else 124
    | _ =>
      hint "timeout"
      return 125

/-- The utility of a name. -/
def action? (name : String) : Option Action :=
  match name with
  | "basename" => some basename
  | "cat" => some cat
  | "chmod" => some Rights.run
  | "cp" => some Copying.run
  | "cut" => some Cut.run
  | "dirname" => some dirname
  | "echo" => some echo
  | "egrep" => some (Grep.run .extended)
  | "env" => some (env call)
  | "expr" => some expr
  | "false" => some fun _ => return 1
  | "fgrep" => some (Grep.run .fixed)
  | "find" => some (Find.run call)
  | "grep" => some (Grep.run .basic)
  | "head" => some head
  | "hostname" => some (fixedLine "localhost")
  | "id" => some (fixedLine "0")
  | "ln" => some Linking.run
  | "ls" => some (Listing.run "ls" {})
  | "mkdir" => some mkdir
  | "mv" => some Moving.run
  | "nl" => some Numbering.run
  | "nohup" => some (prefixed call "nohup" "" 0)
  | "paste" => some Paste.run
  | "printenv" => some printenv
  | "readlink" => some readlink
  | "realpath" => some realpath
  | "rev" => some rev
  | "rm" => some Removal.run
  | "rmdir" => some rmdir
  | "sed" => some (Sed.run call)
  | "seq" => some Sequence.run
  | "sleep" => some sleep
  | "sort" => some Sort.run
  | "sync" | "true" => some fun _ => return 0
  | "tac" => some tac
  | "tail" => some tail
  | "tee" => some tee
  | "timeout" => some (timeout call)
  | "touch" => some Touch.run
  | "tr" => some Translate.run
  | "uname" => some (fixedLine "Linux")
  | "uniq" => some Uniq.run
  | "wc" => some wc
  | "which" => some which
  | "whoami" => some (fixedLine "root")
  | "xargs" => some (xargs call)
  | "[" => some fun args => asProgram "[" (Builtin.bracketTest args) args
  | "kill" => some fun args => asProgram "kill" (Builtin.kill args) args
  | "printf" => some fun args => asProgram "printf" (Builtin.printf args) args
  | "pwd" => some workingDirectory
  | "test" => some fun args => asProgram "test" (Builtin.test args) args
  | _ => none

end

end BulkSuppress.Shell.Utility
