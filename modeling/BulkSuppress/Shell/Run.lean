import BulkSuppress.Shell.Calling
import BulkSuppress.Shell.Extended.Compound

/-
  Running scripts. A script is read and run line by line. Commands run to their end one after the
  other, also those of a pipeline; a copy of the shell leaves nothing behind but what it did to the
  disk and to open files. `execute` takes a bound on the depth of its calls, and loops have one on
  their rounds; a script that exceeds them would not end well either.
-/

namespace BulkSuppress.Shell

/-- The number of rounds after which a loop is given up. -/
def roundLimit : Nat := 1000000

/-- A bound on the depth of commands inside each other. -/
def depthLimit : Nat := 8000

section

variable (run : Command → Run Unit)

/-- Run something of which it does not matter whether it fails. -/
def tested (act : Run Unit) : Run Unit := do
  modify fun m => { m with tested := true }
  act

/-- Run with the mark for tests as it was before, afterwards. -/
def testing (act : Run Unit) : Run Unit :=
  Run.guarded (tested act) fun before => modify fun m => { m with tested := before.tested }

/-! ## Failures and signals -/

/-- End the script if it is to end at failures, this is one, and it is not being tested. -/
def checked : Run Unit := do
  let m ← get
  if m.status ≠ 0 && !m.tested then
    if m.dialect = .extended then Extended.runFailure run
    if m.isFailing then throw (.exit m.status)

/-- Do what is to be done about signals that came. -/
def runTraps : Run Unit := do
  let m ← get
  match if m.outerTraps.isNone then m.pending else [] with
  | [] => return
  | signals =>
    set { m with pending := [] }
    for signal in signals do
      match m.traps.lookup (Signal.name signal) with
      | some action =>
        let m ← get
        Run.guarded (do
          set { m with tested := false }
          match m.dialect with
          | .common => runText run action
          | .extended => Extended.deeper' (runText run action "" m.line)) fun before =>
            modify fun after => { after with tested := before.tested, line := before.line }
        Run.status m.status
      | none => pure ()

/-! ## Compound commands -/

/-- What is to be done about a loop that was broken off: go on or end, and how many loops more. -/
def roundsAfter (e : Interrupt) : Except Interrupt Bool :=
  match e with
  | .break_ n => if n ≤ 1 then .ok false else .error (.break_ (n - 1))
  | .continue_ n => if n ≤ 1 then .ok true else .error (.continue_ (n - 1))
  | e => .error e

/-- Run one round of a loop; the answer tells whether to go on. -/
def round (act : Run Bool) : Run Bool := do
  match ← (ExceptT.lift (ExceptT.run act) : Run (Except Interrupt Bool)) with
  | .ok more => return more
  | .error e =>
    match roundsAfter e with
    | .ok more => return more
    | .error e => throw e

/-- Run with one more loop around. -/
def inLoop (act : Run Unit) : Run Unit := do
  modify fun m => { m with loops := m.loops + 1 }
  Run.guarded act fun before => modify fun m => { m with loops := before.loops - 1 }

/-- Run a loop with a condition; the status is that of the last round. -/
def rounds (isUntil : Bool) (condition body : Command) : Nat → (status : Nat) → Run Unit
  | 0, status => Run.status status
  | n + 1, status => do
    let more ← round do
      testing (run condition)
      let holds := (← get).status = 0
      if holds = isUntil then
        Run.status status
        return false
      else
        run body
        return true
    if more then rounds isUntil condition body n (← get).status
    else return

/-- A pattern among these matches the subject. -/
def matchesOneOf (subject : Octets) : List Word → Run Bool
  | [] => return false
  | w :: ws => do
    if (← patternOfWord run w).isMatch subject then return true
    else matchesOneOf subject ws

/-- The arms from the first one on that matches the subject. -/
def armsFor (subject : Octets) : List (List Word × Command × Sequel) →
    Run (List (List Word × Command × Sequel))
  | [] => return []
  | (ps, arm) :: arms => do
    if ← matchesOneOf run subject ps then return (ps, arm) :: arms else armsFor subject arms

/-- Run the arms for a subject, the first of which has been found. -/
def runArms (subject : Octets) : List (List Word × Command × Sequel) → Run Unit
  | [] => return
  | (_, c, sequel) :: arms => do
    match c with
    | .nothing => Run.status 0
    | c => run c
    match sequel, arms with
    | .done, _ | _, [] => return
    | .fallThrough, arms => runArms subject arms
    | .goOn, arms => goOnWith subject arms
where
  /-- Run the first of some arms that matches the subject, and those that it leads to. -/
  goOnWith (subject : Octets) : List (List Word × Command × Sequel) → Run Unit
    | [] => return
    | (ps, c, sequel) :: arms => do
      if ← matchesOneOf run subject ps then runArms subject ((ps, c, sequel) :: arms)
      else goOnWith subject arms

/-- The plain name of the program that a command starts, if it has one. -/
def programName? : Command → Option Octets
  | .simple _ _ (w :: _) _ => (bareText? w).filter fun cs => cs.all isNameChar
  | _ => none

/-- Look for the programs that commands start, before they run. -/
def foundBefore (cs : List Command) : Run Unit :=
  cs.forM fun c => do
    match programName? c with
    | some name =>
      match Builtin.meaningOf { ← get with aliases := [] } name with
      | .program path _ => Builtin.remember name path
      | _ => return
    | none => return

/-- Run commands, of which each reads what the one before it writes, and tell how they ended. -/
def piped : List Command → Run (List Nat)
  | [] => return []
  | [c] => do
    if (← get).isOn "lastpipe" then run c else inCopy run (run c)
    return [(← get).status]
  | c :: cs => do
    let m ← get
    let written ← collectedOutput run (run c)
    let before ← get
    let ended := before.clock
    set { before.opening 0 (.supply (supplied written ended)) with
      status := m.status, clock := m.clock }
    let statuses ← piped cs
    modify fun after => { after with
      descriptors := before.descriptors, clock := max ended after.clock }
    return before.status :: statuses

/-- Note how the commands of a pipeline ended; all of them count if that is said. -/
def pipelineEnded (statuses : List Nat) : Run Unit :=
  modify fun m => { m with
    pipeline := statuses
    status := if m.isOn "pipefail" then ((statuses.filter (· ≠ 0)).getLast?).getD 0 else m.status }

/-- Follow redirections, and run; a command whose redirections cannot be followed fails. -/
def behindRedirections (rs : List Redirection) (act : Run Unit) : Run Unit :=
  redirected do
    if ← followedAll run rs then act
    else Run.status (if (← get).dialect = .common then 2 else 1)

/-- Run a command in the background. -/
def launched (c : Command) : Run Unit := do
  let before ← get
  let process := Machine.processNumber + 1 + before.background.length
  let number := before.nextJob
  inCopy run do
    modify fun m => { (m.opening 0 .nowhere) with tested := false, process }
    run c
  modify fun m => { m with
    background := ⟨process, m.status, false, m.clock, false⟩ :: m.background
    jobs := ⟨number, process, false⟩ :: m.jobs
    launched := some process
    status := 0
    clock := before.clock }

/-- Set the variable of a loop; in the extended dialect, one that keeps its value ends the loop. -/
def nextItem (name : String) (items : List Word) (item : Octets) : Run Bool := do
  if (← get).dialect = .common then
    Run.assign name item
    return true
  else Extended.nextItem run name items item

/-- Run a loop over items. -/
def eachItem (name : String) (words : List Word) (body : Command) : List Octets → Run Unit
  | [] => return
  | item :: items => do
    if ← nextItem run name words item then
      let more ← round do
        run body
        return true
      if more then eachItem name words body items else return

/-- Run a loop over the items that are chosen from a menu, until there is nothing more to read. -/
def menuRounds (name : String) (items : List Octets) (body : Command) (isFirst : Bool) :
    Nat → Run Unit
  | 0 => return
  | n + 1 => do
    match ← Extended.chosenItem items isFirst with
    | none => Run.status 1
    | some item =>
      Run.assign name item
      let more ← round do
        run body
        return true
      if more then menuRounds name items body ((← get).value? "REPLY" = some []) n else return

/-- Run a loop that counts, as long as its condition is not zero. -/
def countedRounds (condition step : Word) (body : Command) : Nat → Run Unit
  | 0 => return
  | n + 1 => do
    match ← Extended.counted? run condition with
    | some value =>
      if value then
        let more ← round do
          run body
          return true
        if more then
          let status := (← get).status
          if (← Extended.counted? run step).isSome then
            Run.status status
            countedRounds condition step body n
    | none => return

/-- Run a command, given how the commands inside it are run. -/
def performed (c : Command) : Run Unit := do
  match c with
  | .nothing => return
  | .simple line assignments words redirections =>
    match (← get).dialect with
    | .common => simple run line assignments words redirections
    | .extended => Extended.simple run line assignments words redirections
  | .redirected line c rs =>
    Run.atLine line
    behindRedirections run rs (run c)
  | .subshell line c rs =>
    Run.atLine line
    behindRedirections run rs (inCopy run (run c))
  | .pipeline cs =>
    foundBefore cs
    pipelineEnded (← piped run cs)
  | .background c => launched run c
  | .opposite c =>
    testing (run c)
    Run.status (if (← get).status = 0 then 1 else 0)
  | .both first second =>
    testing (run first)
    if (← get).status = 0 then run second
  | .either first second =>
    testing (run first)
    if (← get).status ≠ 0 then run second
  | .sequence first second =>
    run first
    run second
  | .branch condition yes no =>
    testing (run condition)
    if (← get).status = 0 then run yes
    else
      Run.status 0
      run no
  | .loop isUntil condition body => inLoop (rounds run isUntil condition body roundLimit 0)
  | .each line name items body =>
    Run.atLine line
    if !isName name.toList then
      Extended.refuse (Extended.inTicks name.toList ++ ": not a valid identifier".toList)
    else
      let fields ← fieldsOfWords run items
      Run.status 0
      inLoop (eachItem run name items body fields)
  | .choose line subject arms =>
    Run.atLine line
    Extended.showChoice run subject
    let text ← textOf run subject
    match ← armsFor run text arms with
    | [] => Run.status 0
    | arms => runArms run text arms
  | .define name body =>
    modify fun m => { m with
      functions := (name, body) :: m.functions.filter fun f => f.1 ≠ name
      origins := withEntry name m.file m.origins }
    Run.status 0
  | .calculation line body =>
    Run.atLine line
    Extended.calculation run body
  | .counted line start condition step body =>
    Run.atLine line
    Run.status 0
    if (← Extended.counted? run start).isSome then
      inLoop (countedRounds run condition step body roundLimit)
  | .condition line c =>
    Run.atLine line
    Extended.decideCondition run (Extended.show' run) c
  | .menu line name items body =>
    Run.atLine line
    let fields ← fieldsOfWords run items
    Run.status 0
    if !fields.isEmpty then inLoop (menuRounds run name fields body true roundLimit)
  | .timed isBrief c =>
    run c
    Extended.tellTime isBrief

/-- A command that ends a script by failing, if that is to be so. -/
def Command.isChecked : Command → Bool
  | .simple .. | .subshell .. | .pipeline _ | .calculation .. | .condition .. => true
  | _ => false

/-- A command that is a pipeline by itself. -/
def Command.isSingle : Command → Bool
  | .simple .. | .subshell .. | .calculation .. | .condition .. => true
  | _ => false

end

/-- Run a command. -/
def execute : Nat → Command → Run Unit
  | 0, _ => throw (.killed 11)
  | depth + 1, c => do
    let run := execute depth
    if (← get).has 'n' then return
    performed run c
    if c.isSingle then modify fun m => { m with pipeline := [m.status] }
    runTraps run
    if c.isChecked then checked run

end BulkSuppress.Shell
