import BulkSuppress.Shell.Utility.Arguments

/-
  The output of utilities: copying what comes in piece by piece, at the times when it comes, having
  other programs run, and telling at the end what could not be written. How a program is run is a
  parameter of those that do.
-/

namespace BulkSuppress.Shell.Utility

/-! ## Copying -/

/-- Do something with what comes from the input, piece by piece. -/
def forEachPiece (act : Octets → Run Unit) : Run Unit := do
  match (← get).channel? 0 with
  | some (n, .supply rest) =>
    for (time, cs) in rest do
      modify fun m => { m with clock := max m.clock time }
      act cs
    modify (·.afterEnd n)
  | some _ => act (← Run.readAll)
  | none => return

/-- The names that stand for the input. -/
def namesInput (file : Octets) : Bool := file = ['-'] || file = "/dev/stdin".toList

/-- Write each file, or the input if there are no files, as it is. -/
def copyOut (name : String) (files : List Octets) : Run Nat := do
  let mut status := 0
  for file in if files.isEmpty then [['-']] else files do
    if namesInput file && (← get).channel? 0 matches some (_, .supply _) then
      forEachPiece Run.write
    else
      match ← input? name file with
      | some cs => Run.write cs
      | none => status := 1
  return status

/-! ## Other programs -/

/--
What runs the program at a path, by some name, with arguments, and tells how it ended or why it
could not start.
-/
abbrev Caller := (name path : Octets) → (args : List Octets) → Run (Except SystemError Nat)

/-- How a program ended that was looked for by name, or why it could not start. -/
def called (call : Caller) (name : Octets) (args : List Octets) : Run (Except SystemError Nat) := do
  let m ← get
  match if name.isEmpty then Except.error .notFound else m.search name with
  | .error e => return .error e
  | .ok path => call name path args

/-- The same in a process of its own. -/
def spawned (call : Caller) (name : Octets) (args : List Octets) :
    Run (Except SystemError Run.Ended) :=
  Run.inProcess (called call name args)

/-- The status that tells why a program could not start. -/
def statusWithout (e : SystemError) : Nat := if e = .notFound || e = .notDirectory then 127 else 126

/-- Become a program that is looked for by name; there is a complaint if there is none. -/
def become (call : Caller) (utility : String) (shown : Octets → Octets) (name : Octets)
    (args : List Octets) : Run Nat := do
  match ← called call name args with
  | .ok status => return status
  | .error e =>
    complainAbout utility (shown name) e
    return statusWithout e

/-- What a command writes to its output. A shell runs it, in a process of its own. -/
def outputOf (call : Caller) (command : Octets) : Run Octets := do
  let before ← get
  let number := before.collected.length
  set ({ before with collected := before.collected ++ [[]] }.opening 1 (.collector number))
  let _ ← Run.inProcess (call "sh".toList "/bin/sh".toList ["-c".toList, command])
  let after ← get
  set { after with
    descriptors := before.descriptors
    collected := after.collected.take number }
  return (after.collected[number]?.getD []).octets

/-! ## The end of output -/

/-- How utilities name the output. -/
def outputName : Octets := quoted "standard output".toList

/-- How a utility tells that its output could not be written: lines, and how it ends. -/
def outputProblem (name : String) (e : SystemError) : List Octets × Nat :=
  let why : Octets := ": ".toList ++ (reasonOf e).toList
  let isFull := e = .code 28
  let unwritten : Octets := "write error".toList
  match name with
  | "cat" => ([if isFull then unwritten ++ why else "standard output".toList ++ why], 1)
  | "sort" => (["fflush failed: ".toList ++ outputName ++ why, unwritten], 2)
  | "sed" => ([(if isFull then "couldn't flush stdout" else "couldn't close stdout").toList ++ why],
      4)
  | "find" => ([outputName ++ why, if isFull then unwritten else unwritten ++ why], 1)
  | "tee" => ([outputName ++ why], 1)
  | "ls" | "grep" | "printenv" => ([unwritten ++ why], 2)
  | "expr" => ([unwritten ++ why], 3)
  | "env" => ([unwritten ++ why], 125)
  | "cmp" | "diff" => (["standard output".toList ++ why], 2)
  | "yes" => (["standard output".toList ++ why], 1)
  | "wc" | "md5sum" | "sha1sum" | "sha224sum" | "sha256sum" | "sha384sum" | "sha512sum"
  | "b2sum" | "cksum" | "sum" | "du" => ([if isFull then unwritten else unwritten ++ why], 1)
  | _ => ([unwritten ++ why], 1)

/-- Tell at the end of a utility what could not be written. -/
def flushed (name : String) (act : Action) : Action := fun args => do
  let status ← act args
  match (← get).unwritten with
  | none => return status
  | some e =>
    modify fun m => { m with unwritten := none }
    let (lines, status) := outputProblem name e
    for l in lines do complain name l
    return status

end BulkSuppress.Shell.Utility
