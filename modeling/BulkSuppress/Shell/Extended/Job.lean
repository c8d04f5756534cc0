import BulkSuppress.Shell.Builtin.Job
import BulkSuppress.Shell.Builtin.Directory
import BulkSuppress.Shell.Extended.Arguments
import BulkSuppress.Shell.Quotes

/-
  Signals, processes in the background and what a process may do, in the extended dialect.
-/

namespace BulkSuppress.Shell.Extended

/-! ## Signals -/

/-- What else a script can do something about, apart from signals. -/
def events : List String := ["DEBUG", "ERR", "RETURN"]

/-- The name of a signal as it is shown, without what all names start with. -/
def shownSignal (n : Nat) : String :=
  if n = 16 then "STKFLT"
  else if n < 34 then Signal.name n
  else if n = 34 then "RTMIN"
  else if n < 50 then "RTMIN+" ++ toString (n - 34)
  else if n = 64 then "RTMAX"
  else "RTMAX-" ++ toString (64 - n)

/-- The numbers of the signals that are shown. -/
def shownSignals : List Nat :=
  (List.range 65).filter fun n => n ≠ 0 && n ≠ 32 && n ≠ 33

/-- The number of a signal by name, with or without what all names start with, or by number. -/
def signal? (cs : Octets) : Option Nat :=
  let name := cs.map Char.toUpper
  let name := if "SIG".toList.isPrefixOf name then name.drop 3 else name
  match decimal? cs with
  | some n => if n < Signal.limit then some n else none
  | none =>
    if cs.map Char.toUpper = "EXIT".toList then some 0
    else shownSignals.find? fun n => (shownSignal n).toList = name

/-- The name of what a script can do something about, as it is kept. -/
def trapName? (cs : Octets) : Option String :=
  let name := String.ofList (cs.map Char.toUpper)
  if events.contains name then some name else (signal? cs).map Signal.name

/-- A table of all signals. -/
def signalTable : Octets :=
  let cell (n : Nat) : Octets :=
    let digits := (toString n).toList
    List.replicate (2 - digits.length) ' ' ++ digits ++ ") SIG".toList ++ (shownSignal n).toList
  let rows (cells : List Octets) : Octets :=
    ((List.range cells.length).zip cells).flatMap fun (n, text) =>
      text ++ (if n % 5 = 4 then ['\n'] else ['\t'])
  rows (shownSignals.map cell) ++ ['\n']

/-- What is done when something happens, as a command. -/
def trapLine (m : Machine) (name : String) : Octets :=
  match m.traps.lookup name with
  | some action =>
    let isSignal := name ≠ "EXIT" && !events.contains name
    "trap -- ".toList ++ (if action.isEmpty then "''".toList else Quotes.single action) ++
      ((if isSignal then " SIG" else " ") ++ name ++ "\n").toList
  | none => []

/-- Say what to do when something happens. -/
def trap (args : List Octets) : Run Unit :=
  withOptions "trap" "lp" args fun choices rest => do
    let m ← get
    Run.status 0
    let bad (cs : Octets) : Run Unit := refuse (cs ++ ": invalid signal specification".toList)
    if has choices 'l' then Run.write signalTable
    else if has choices 'p' || rest.isEmpty then
      if rest.isEmpty then
        Run.write (((Signal.names ++ events).map (trapLine m)).flatten)
      else
        for cs in rest do
          match trapName? cs with
          | some name => Run.write (trapLine m name)
          | none => bad cs
    else
      let first := rest.headD []
      let resets := (trapName? first).isSome && first ≠ ['-'] &&
        (rest.length = 1 || first.all isDigit)
      if !resets && rest.length = 1 then usage "trap"
      else
        let action := if resets || first = ['-'] then none else some first
        for cs in if resets then rest else rest.drop 1 do
          match trapName? cs with
          | none => bad cs
          | some name =>
            modify fun m =>
              let others := m.traps.filter fun t => t.1 ≠ name
              { m with traps := (action.map fun a => (name, a)).toList ++ others }

/-! ## Processes -/

/-- The job that a text names. -/
def jobOf? (m : Machine) (cs : Octets) : Option Job :=
  match cs with
  | ['%'] | ['%', '%'] | ['%', '+'] => m.jobs.head?
  | ['%', '-'] => m.jobs[1]?
  | '%' :: digits => (decimal? digits).bind fun n => m.jobs.find? (·.number = n)
  | _ => none

/-- Send a signal to what a text names. -/
def sendTo (signal : Nat) (cs : Octets) : Run Unit := do
  let m ← get
  let known (n : Nat) : Bool :=
    n = Machine.processNumber || (m.background? n).any fun b => !b.reaped && m.clock ≤ b.ended
  match cs with
  | '%' :: _ =>
    match jobOf? m cs with
    | some job => Builtin.send signal job.process
    | none => refuse (cs ++ ": no such job".toList)
  | cs =>
    match number? cs with
    | none => refuse (cs ++ ": arguments must be process or job IDs".toList)
    | some n =>
      if known n.natAbs then Builtin.send signal n.natAbs
      else refuse (['('] ++ (toString n).toList ++ ") - No such process".toList)

/-- Write the names of signals, or their numbers. -/
def listSignals (args : List Octets) : Run Unit := do
  if args.isEmpty then Run.write signalTable
  for cs in args do
    let n := (decimal? cs).map fun n => if 128 < n then n - 128 else n
    match n, signal? cs with
    | some n, _ =>
      if n < Signal.limit then Run.write ((if n = 0 then "EXIT" else shownSignal n).toList ++ ['\n'])
      else refuse (cs ++ ": invalid signal specification".toList)
    | none, some n => Run.write ((toString n).toList ++ ['\n'])
    | none, none => refuse (cs ++ ": invalid signal specification".toList)

/-- Send signals. -/
def kill (args : List Octets) : Run Unit := do
  Run.status 0
  let bad (cs : Octets) : Run Unit := refuse (cs ++ ": invalid signal specification".toList)
  let send (signal : Nat) (targets : List Octets) : Run Unit :=
    if targets.isEmpty then usage "kill" else targets.forM (sendTo signal)
  match args with
  | [] => usage "kill"
  | ['-', '-'] :: rest => send Signal.termination rest
  | ['-', letter] :: rest =>
    if letter = 'l' || letter = 'L' then listSignals rest
    else if letter = 's' || letter = 'n' then
      match rest with
      | [] => refuse (['-', letter] ++ ": option requires an argument".toList)
      | cs :: rest =>
        match signal? cs with
        | some signal => send signal (behindDashes rest)
        | none => bad cs
    else
      match signal? [letter] with
      | some signal => send signal (behindDashes rest)
      | none => bad [letter]
  | ('-' :: cs) :: rest =>
    match signal? cs with
    | some signal => send signal (behindDashes rest)
    | none => bad cs
  | targets => send Signal.termination targets

/-- Wait for the end of processes in the background. -/
def wait (args : List Octets) : Run Unit :=
  withOptions "wait" "fnp:" args fun choices rest => do
    let m ← get
    if rest.isEmpty then
      if has choices 'n' then
        match m.jobs.reverse.find? fun job => !job.waited with
        | some job => Builtin.waitFor job.process
        | none => Run.status 127
      else Builtin.wait []
    else
      for cs in rest do
        match cs with
        | '%' :: _ =>
          match jobOf? m cs with
          | some job => Builtin.waitFor job.process
          | none => refuse (cs ++ ": no such job".toList) 127
        | cs =>
          match decimal? cs with
          | none => refuse (inTicks cs ++ ": not a pid or valid job spec".toList)
          | some n =>
            if m.jobs.any fun job => job.process = n then Builtin.waitFor n
            else refuse ("pid ".toList ++ cs ++ " is not a child of this shell".toList) 127

/-- List processes in the background. -/
def jobs (args : List Octets) : Run Unit :=
  withOptions "jobs" "lpnrsx" args fun choices rest => do
    let m ← get
    Run.status 0
    let letters := (choices.filter fun c => c.letter = 'l' || c.letter = 'p').map fun c =>
      (⟨c.letter, []⟩ : Builtin.Choice)
    if rest.isEmpty then m.jobs.reverse.forM (Builtin.showJob letters)
    for cs in rest do
      match jobOf? m cs with
      | some job => Builtin.showJob letters job
      | none => refuse (cs ++ ": no such job".toList)

/-- Go on with a job, which takes a terminal. -/
def resume : Run Unit := refuse "no job control".toList

/-! ## Rights and limits -/

/-- Write the rights that new files do not get, or set them. -/
def umask (args : List Octets) : Run Unit :=
  withOptions "umask" "Sp" args fun choices rest => do
    let mask := (← get).mask
    let given := Builtin.without 511 mask
    match rest with
    | [] =>
      let front := if has choices 'p' then
          (if has choices 'S' then "umask -S " else "umask ").toList else []
      let shown := if has choices 'S' then Builtin.lettered given else Builtin.fourOctal mask
      Run.write (front ++ shown ++ ['\n'])
      Run.status 0
    | mode :: _ =>
      if mode.head?.any isDigit then
        if (mode.all fun c => (digitIn? 8 c).isSome) && numberIn 8 mode < 4096 then
          modify fun m => { m with mask := numberIn 8 mode % 512 }
          Run.status 0
        else refuse (mode ++ ": octal number out of range".toList)
      else
        match Builtin.symbolic given (mode.length + 1) given 0 mode with
        | some rights =>
          modify fun m => { m with mask := Builtin.without 511 rights }
          if has choices 'S' then Run.write (Builtin.lettered rights ++ ['\n'])
          Run.status 0
        | none =>
          let users := mode.takeWhile fun c => (Builtin.userClass c).isSome
          refuse (inTicks ((mode.drop users.length).take 1) ++
            ": invalid symbolic mode operator".toList)

/-- Write how much time has been used, which is none that counts. -/
def times : Run Unit := do
  Run.write "0m0.001s 0m0.001s\n0m0.000s 0m0.000s\n".toList
  Run.status 0

end BulkSuppress.Shell.Extended
