import BulkSuppress.Shell.Run

/-
  Starting programs from outside. What a program writes is collected; it has nothing to read.

  The shell stands for the system that a linter is run by, so that a linter that is a script can be
  run here. It is one `Launcher` of many: what is proved of sessions and of the command line holds
  for all of them, and nothing of it rests on what a shell does.
-/

namespace BulkSuppress.Shell

/-- The variables that programs find, apart from their working directory. -/
def initialVariables : List (String × Variable) :=
  [("HOME", { value := some "/root".toList, exported := true }),
    ("PATH", { value := some defaultSearch.toList, exported := true })]

/-- The state in which a program starts. -/
def initial (disk : Disk) : Machine where
  disk
  channels := [.nowhere, .collector 0, .collector 1]
  collected := [[], []]
  descriptors := [(0, 0), (1, 1), (2, 2)]
  name := []
  bindings := initialVariables

/-- Start a program, and wait for its end. -/
def launch : Launcher := fun disk directory executable arguments =>
  match disk.resolve directory with
  | .error e => .error e
  | .ok here =>
    if arguments.any (·.toList.contains '\x00') then .error .nulInArgument
    else
      let path := Octets.ofText executable.text
      let run := runProgram (execute depthLimit) interpreterLimit path path
        (arguments.map Octets.ofText)
      let (r, after) := (ExceptT.run run).run (initial { disk with workingDirectory := here })
      let ended (status : ExitStatus) : Except SystemError (Disk × Finished) :=
        .ok ({ after.disk with workingDirectory := disk.workingDirectory },
          { status
            out := Octets.toBytes (Collection.octets (after.collected[0]?.getD []))
            err := Octets.toBytes (Collection.octets (after.collected[1]?.getD [])) })
      match r with
      | .ok (.ok status) => ended (.exited (status % 256))
      | .ok (.error e) => .error e
      | .error (.killed _) => ended .signalled
      | .error e => ended (.exited (statusAfter after (.error e)))

end BulkSuppress.Shell
