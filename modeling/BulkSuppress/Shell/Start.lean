import BulkSuppress.Shell.Extended.Invocation
import BulkSuppress.Shell.Redirect
import BulkSuppress.Shell.Utility

/-
  Programs that start: a file is a utility, a script for an interpreter, or nothing that the system
  runs. A shell that starts reads its arguments and then a script; it has nothing of the one that
  starts it but the environment.
-/

namespace BulkSuppress.Shell

/-- The number of interpreters that can be scripts themselves. -/
def interpreterLimit : Nat := 5

section

variable (run : Command → Run Unit)

/-- The parts of the line that names an interpreter: its path, and an argument. -/
def interpreterLine? (content : Octets) : Option (Octets × List Octets) :=
  match content with
  | '#' :: '!' :: rest =>
    let blank (c : Char) : Bool := c = ' ' || c = '\t'
    let line := (rest.take 253).takeWhile (· ≠ '\n')
    let line := ((line.dropWhile blank).reverse.dropWhile blank).reverse
    let path := line.takeWhile fun c => !blank c
    let argument := (line.drop path.length).dropWhile blank
    if path.isEmpty then none
    else some (path, if argument.isEmpty then [] else [argument])
  | _ => none

/-- The variables that a shell sets for itself. -/
def ownVariables : List (String × Variable) :=
  [("IFS", " \t\n"), ("OPTIND", "1"), ("PPID", toString (Machine.processNumber - 1)), ("PS1", "# "),
    ("PS2", "> "), ("PS4", "+ ")].map fun v => (v.1, { value := some v.2.toList })

/-- The path of the working directory for a shell that starts, given the one in its environment. -/
def startingPath (m : Machine) (told : Option Octets) : Octets :=
  match told with
  | some cs =>
    if (m.disk.resolve ⟨Octets.toText cs⟩).toOption = some m.disk.workingDirectory &&
      cs.head? = some '/' then cs
    else Builtin.physical m.disk
  | none => Builtin.physical m.disk

/-- A shell that starts, with nothing of the one that starts it but the environment. -/
def fresh (m : Machine) (name : Octets) : Machine :=
  let exported := m.bindings.filterMap fun v =>
    if v.2.exported && v.2.value.isSome then some (v.1, { v.2 with readOnly := false }) else none
  let here := startingPath m ((exported.lookup "PWD").bind (·.value))
  { disk := m.disk
    channels := m.channels
    collected := m.collected
    descriptors := m.descriptors
    name
    here
    bindings := ("PWD", { value := some here, exported := true }) :: (exported.filter fun v => v.1 ≠ "PWD") ++
      ownVariables.filter fun v => (exported.lookup v.1).isNone
    traps := m.traps.filter fun t => t.2.isEmpty
    documents := m.documents
    serial := m.serial
    clock := m.clock
    process := m.process
    level := m.level + 1
    background := m.background
    mask := m.mask
    attributes := m.attributes
    line := 0 }

/-- Run the shell of the dialect that all shells speak as a program. -/
def commonProgram (name : Octets) (args : List Octets) : Run Nat := do
  modify fun m => fresh m name
  finished run do
    let isCommand (a : Octets) : Bool := a.head? = some '-' && 1 < a.length && a ≠ ['-', '-']
    let given := args.takeWhile fun a => isCommand a || (a.head? = some '+' && 1 < a.length)
    let rest := args.drop given.length
    let letters := (given.filter isCommand).flatMap (·.drop 1)
    for a in given do
      let plain := a.filter fun c => c ≠ 'c' && c ≠ 'l'
      if 1 < plain.length then Builtin.setAll 4 [plain]
    let rest := if rest.head? = some ['-', '-'] then rest.drop 1 else rest
    modify fun m => { m with arguments := [] }
    if letters.contains 'c' then
      match rest with
      | [] => Run.fail "-c requires an argument".toList
      | text :: more =>
        modify fun m => { m with name := more.head?.getD name, arguments := more.drop 1, line := 1 }
        runText run text
    else if letters.contains 's' || rest.isEmpty then
      modify fun m => { m with arguments := rest, line := 1 }
      let text ← Run.readAll
      runFile run text
    else
      match rest with
      | script :: more =>
        match (← get).readFile script with
        | .error e =>
          Run.fail (openProblem "open" "No such file" script e)
        | .ok text =>
          modify fun m => { m with name := script, arguments := more, line := 1 }
          runFile run text
      | [] => return

/-- Run the shell that speaks a dialect as a program. -/
def shellProgram (dialect : Dialect) (name : Octets) (args : List Octets) : Run Nat :=
  match dialect with
  | .common => commonProgram run name args
  | .extended => Extended.shellProgram run name args

/-- Run the program at a path; one that is no program for the system is not run. -/
def runProgram : Nat → (name path : Octets) → (args : List Octets) → Run (Except SystemError Nat)
  | 0, _, _, _ => return .error .tooManyLinks
  | n + 1, name, path, args => do
    match programAt (← get).disk path with
    | .error e => return .error e
    | .ok content =>
      match utilityOf? content with
      | some utility =>
        if shellNames.contains utility then
          let dialect := if utility = "bash" then Dialect.extended else .common
          return .ok (← shellProgram run dialect name args)
        else
          let before ← get
          set { before with builtin := none, called := name }
          let call : Utility.Caller := fun name path args => do
            match ← runProgram n name path args with
            | .error (.code 8) => return .ok (← shellProgram run .common path (path :: args))
            | r => return r
          match Utility.action? call utility with
          | some act =>
            let status ← Utility.flushed utility act args
            modify fun m => { m with called := before.called }
            return .ok status
          | none => return .error .badExecutable
      | none =>
        match interpreterLine? content with
        | none => return .error .badExecutable
        | some (interpreter, argument) =>
          runProgram n interpreter interpreter (argument ++ path :: args)

/-- Run the program at a path as the shell does it: what the system does not run is a script. -/
def runAsCommand (name path : Octets) (args : List Octets) : Run (Except SystemError Nat) := do
  let m ← get
  match ← runProgram run interpreterLimit name path args with
  | .error (.code 8) =>
    match m.dialect, programAt m.disk path with
    | .extended, .ok content =>
      if Extended.isBinary content then return .error (.code 8)
      else return .ok (← shellProgram run .extended path (path :: args))
    | dialect, _ => return .ok (← shellProgram run dialect path (path :: args))
  | r => return r

end

end BulkSuppress.Shell
