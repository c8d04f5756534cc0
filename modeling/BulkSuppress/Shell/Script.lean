import BulkSuppress.Shell.Grammar
import BulkSuppress.Shell.Variables
import BulkSuppress.Shell.Signal

/-
  Texts as scripts, and copies of the shell. A script runs line by line as it is read; a copy of the
  shell leaves nothing behind but what it did to the disk and to open files. How commands are run is
  a parameter.
-/

namespace BulkSuppress.Shell

/-- The status that something running leaves. -/
def statusAfter (m : Machine) : Except Interrupt Unit → Nat
  | .error (.exit n) | .error (.failed n) | .error (.leave n) => n % 256
  | .error (.killed signal) => 128 + signal
  | _ => m.status

/-- Run, and tell what put an end to it. -/
def Run.observed (act : Run Unit) : Run (Except Interrupt Unit) :=
  ExceptT.lift (ExceptT.run act)

/-- Run, and restore what is to be as before, however that ends. -/
def Run.guarded (act : Run Unit) (restore : Machine → Run Unit) : Run Unit := do
  let before ← get
  let r ← observed act
  restore before
  match r with
  | .ok () => return
  | .error e => throw e

section

variable (run : Command → Run Unit)

/-! ## Texts as scripts -/

/-- Show what has been read, up to some line, if that is asked for. -/
def shownRead (source : Source) (length : Nat) : Run Unit := do
  if source.isFile && (← get).has 'v' then
    let _ ← Run.writeTo 2 (source.rest.take length)

/-- A number of characters, or as many more as it takes to come to the end of a line. -/
def throughLine (cs : Octets) (length : Nat) : Nat :=
  if length = 0 || (cs.take length).getLast? = some '\n' then length
  else length + ((cs.drop length).takeWhile (· ≠ '\n')).length + 1

/-- The script in the state in which its next line is read. -/
def Source.begun (source : Source) (m : Machine) : Source :=
  let replaces := m.dialect = .common || m.isOn "expand_aliases"
  { source with
    dialect := m.dialect
    serial := m.serial
    documents := []
    warnings := []
    aliases := if replaces then m.aliases else []
    groups := m.isOn "extglob" }

/-- The line of a script of which so many characters are left. -/
def lineAround (cs : Octets) (left : Nat) : Octets :=
  let front := (cs.take (cs.length - left)).reverse.takeWhile (· ≠ '\n')
  front.reverse ++ (cs.drop (cs.length - left)).takeWhile (· ≠ '\n')

/--
Tell what does not fit in a script, in the words of the extended dialect. The answer is what can
still be run.
-/
def reported (source : Source) (p : SyntaxProblem) : Run (Option Source) := do
  let m ← get
  let colon := ": ".toList
  let place := m.file ++ colon ++
    (if source.context.isEmpty then [] else source.context.toList ++ colon) ++
    "line ".toList ++ (toString p.line).toList ++ colon
  for text in p.texts do Run.complain (place ++ text.toList)
  if p.showsLine then
    Run.complain (place ++ ['\x60'] ++ lineAround source.rest p.left ++ ['\''])
  if p.isMinor then
    Run.status 1
    let left := source.rest.drop (source.rest.length - p.left)
    let skipped := (left.takeWhile (· ≠ '\n')).length + 1
    return some { source with rest := left.drop skipped, line := p.line + 1 }
  else
    Run.status p.status
    if source.context = "eval" || source.context = "source" then return none
    else throw (.exit p.status)

/-- Tell what there is to warn of in what has been read of a script. -/
def warned (source : Source) : Run Unit := do
  let m ← get
  if m.dialect = .extended then
    for (line, text) in source.warnings do
      Run.complain (m.file ++ ": line ".toList ++ (toString line).toList ++ ": ".toList ++
        text.toList)

/-- Run a command of a script; the script goes on if its line is discarded. -/
def runLine (c : Command) : Run Unit := do
  if (← get).dialect = .common then run c
  else
    match ← Run.observed (run c) with
    | .error .discarded => modify fun m => { m with status := max 1 m.status }
    | .error e => throw e
    | .ok () => return

/-- Run a script from where it has been read to. -/
def runLines : Nat → Source → Run Unit
  | 0, _ => return
  | n + 1, source => do
    let m ← get
    let begun := source.begun m
    match Grammar.line?.run begun with
    | .error p =>
      shownRead begun (throughLine begun.rest (begun.rest.length - p.left))
      match m.dialect with
      | .common =>
        modify fun m => { m with line := p.line }
        Run.fail (("Syntax error: " ++ p.texts.headD "").toList)
      | .extended =>
        match ← reported begun p with
        | some rest => runLines n rest
        | none => return
    | .ok (none, rest) =>
      shownRead begun begun.rest.length
      warned rest
    | .ok (some c, rest) =>
      warned rest
      shownRead begun (begun.rest.length - rest.rest.length)
      modify fun m => { m with
        serial := rest.serial, documents := rest.documents ++ m.documents }
      runLine run c
      runLines n rest

/-- Run a text as a script, which starts at a line in the extended dialect. -/
def runText (cs : Octets) (context : String := "") (line : Nat := 1) : Run Unit := do
  let line := if (← get).dialect = .common then 1 else line
  runLines run (cs.length + 1) { rest := cs, line, context, endsOpen := cs.getLast? ≠ some '\n' }

/-- Run the text of a file as a script. -/
def runFile (cs : Octets) (context : String := "") : Run Unit :=
  runLines run (cs.length + 1)
    { rest := cs, isFile := true, context, endsOpen := cs.getLast? ≠ some '\n' }

/-! ## Copies of the shell -/

/-- Run to the end of a script, with what is to be done there; the status is the script's. -/
def finished (act : Run Unit) : Run Nat := do
  let r ← Run.observed act
  match r with
  | .error (.killed signal) => throw (.killed signal)
  | r =>
    let status := statusAfter (← get) r
    modify fun m => { m with status, tested := false }
    match (← get).traps.lookup (Signal.name 0) with
    | none => return status
    | some action =>
      modify fun m => { m with traps := m.traps.filter fun t => t.1 ≠ Signal.name 0 }
      match ← Run.observed (runText run action) with
      | .error (.killed signal) => throw (.killed signal)
      | .error (.exit n) | .error (.failed n) => return n % 256
      | _ => return status

/-- End the script if a signal for it came while something that it started was running. -/
def goOn : Run Unit := do
  let m ← get
  match m.outerTraps, m.struck with
  | none, some signal => throw (.killed signal)
  | _, _ => return

/-- Run in a copy of the shell, and note how that ended. -/
def inCopy (act : Run Unit) : Run Unit := do
  let (r, after) : Except Interrupt Unit × Machine ← Run.aside do
    modify fun m => { m with
      traps := m.traps.filter fun t => t.2.isEmpty
      outerTraps := some (m.outerTraps.getD m.traps)
      copies := m.copies + 1
      jobs := [] }
    let status ← finished run act
    throw (.exit status)
  goOn
  match r with
  | .error (.killed signal) => throw (.killed signal)
  | r => Run.status (statusAfter after r)

/-- What is written to the output by something that runs in a copy of the shell. -/
def collectedOutput (act : Run Unit) : Run Collection := do
  let before ← get
  let number := before.collected.length
  set { before with collected := before.collected ++ [[]] }
  inCopy run do
    modify (·.opening 1 (.collector number))
    act
  return ((← get).collected[number]?).getD []

end

end BulkSuppress.Shell
