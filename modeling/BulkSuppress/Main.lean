import BulkSuppress.CommandLine.Perform
import BulkSuppress.Shell.Launch

/-
  The program. It reads the disk below the working directory, has the command line performed on
  it, prints, and writes the files that have changed. Linters have to be shell scripts.
-/

namespace BulkSuppress.Program

/-- The disk with everything that the entries of a directory hold. -/
partial def load (d : Disk) (entries : Array IO.FS.DirEntry) : IO Disk := do
  let mut d := d
  for e in entries do
    let loc := (Path.mk e.path.toString).names
    match (← e.path.symlinkMetadata).type with
    | .dir =>
      d ← load (d.place loc .directory) (← e.path.readDir)
    | .symlink =>
      d := d.place loc (.link ⟨(← IO.FS.realPath e.path).toString⟩)
    | .file =>
      d := d.place loc (.file (← IO.FS.readBinFile e.path) true)
    | .other => pure ()
  return d

/-- The disk of a system with a directory that has the entries, which is the working directory. -/
def diskAt (here : String) (entries : Array IO.FS.DirEntry) : IO Disk :=
  let loc := (Path.mk here).names
  load { Shell.systemDisk.place loc .directory with workingDirectory := loc } entries

/-- The paths of the files that differ, with their new content. -/
def changes (before after : Disk) : List (String × ByteArray) :=
  let old := before.files
  let differs (f : Location × ByteArray) : Bool :=
    (old.lookup f.1).all fun content => content.data != f.2.data
  (after.files.filter differs).map fun f => ("/" ++ Path.slashed f.1, f.2)

/-- The command line, performed on a disk. -/
def performance (disk : Disk) (colors logging : Bool) (args : List String) :
    CommandLine.Performance :=
  CommandLine.run { disk, launch := Shell.launch, colors, logging } args

/-- Whether lines can be coloured. -/
def colors : IO Bool := do
  match ← IO.getEnv "CLICOLOR_FORCE" with
  | some force => if force ≠ "0" then return true
  | none => pure ()
  if (← IO.getEnv "NO_COLOR").isSome then return false
  else (← IO.getStdout).isTty

end BulkSuppress.Program

/-- Perform the command line. -/
def main (args : List String) : IO UInt32 := do
  let started ← IO.monoNanosNow
  let here ← IO.currentDir
  let disk ← BulkSuppress.Program.diskAt here.toString (← here.readDir)
  let r := BulkSuppress.Program.performance disk (← BulkSuppress.Program.colors)
    ((← IO.getEnv "BULK_SUPPRESS_LOG") != some "off") args
  for (path, content) in BulkSuppress.Program.changes disk r.disk do
    IO.FS.createDirAll ((System.mkFilePath [path]).parent.getD "/")
    IO.FS.writeBinFile path content
  let elapsed := (← IO.monoNanosNow) - started
  let output := r.output ⟨elapsed / 1000000000, elapsed % 1000000000⟩
  IO.eprint output.err
  IO.print output.out
  return output.exitCode.toUInt32
