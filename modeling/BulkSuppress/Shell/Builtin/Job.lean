import BulkSuppress.Shell.Builtin.Arguments
import BulkSuppress.Shell.Signal

/-
  Signals and what runs in the background. A process in the background has been run to its end
  when it is asked about, but its end may lie at a later time of the clock.
-/

namespace BulkSuppress.Shell.Builtin

/-- The names of all signals, one to a line. -/
def signalList : Octets :=
  "0\n".toList ++ (Signal.names.drop 1).flatMap fun name => name.toList ++ ['\n']

/-- Have the script end by a signal; a copy of it goes on, but the script itself does not. -/
def strike (signal : Nat) : Run Unit := do
  if (← get).outerTraps.isNone then throw (.killed signal)
  else modify fun m => { m with struck := some signal }

/-- Have a background process end by a signal, if it has not ended by itself. -/
def endBackground (signal : Nat) (b : Background) : Run Unit :=
  modify fun m =>
    if b.ended ≤ m.clock then m
    else
      let stays (c : Chunk) : Bool := c.process ≠ b.process || c.time ≤ m.clock
      let m := m.withBackground b.process fun b =>
        { b with status := 128 + signal, signalled := true, ended := m.clock }
      { m with collected := m.collected.map (List.filter stays) }

/-- Complain about a process that does not exist. -/
def noProcess : Run Unit := do
  Run.warn "No such process\n".toList
  Run.status 1

/-- Send a signal to a process. -/
def send (signal : Nat) (process : Nat) : Run Unit := do
  let m ← get
  if process = Machine.processNumber then
    match (m.outerTraps.getD m.traps).lookup (Signal.name signal) with
    | some action =>
      if Signal.unavoidable.contains signal then strike signal
      else if signal ≠ 0 && !action.isEmpty then
        modify fun m => { m with pending := m.pending ++ [signal] }
    | none => if !Signal.unnoticed.contains signal then strike signal
  else
    match m.background? process with
    | some b =>
      if b.reaped || b.ended < m.clock then noProcess
      else if !Signal.unnoticed.contains signal then endBackground signal b
    | none => noProcess

/-- The job that a text names. -/
def jobOf (cs : Octets) : Run Job := do
  let m ← get
  let found := match cs with
    | ['%'] | ['%', '%'] | ['%', '+'] => m.jobs.head?
    | ['%', '-'] => m.jobs[1]?
    | '%' :: digits => (decimal? digits).bind fun n => m.jobs.find? (·.number = n)
    | _ => none
  match found with
  | some job => return job
  | none => Run.fail ("No such job: ".toList ++ cs)

/-- Send a signal to processes. -/
def kill (args : List Octets) : Run Unit := do
  let usage : Run Unit := Run.fail
    "Usage: kill [-s sigspec | -signum | -sigspec] [pid | job]... or\nkill -l [exitstatus]".toList
  let direct := match args.head? with
    | some ('-' :: cs) => Signal.number? cs
    | _ => none
  let (choices, rest) ← if direct.isSome then pure ([], args.drop 1) else options "ls:" args
  let lists := choices.any fun c => c.letter = 'l'
  let named := (choices.filter fun c => c.letter = 's').getLast?
  match named with
  | some c => if (Signal.number? c.value).isNone then
      Run.fail ("invalid signal number or name: ".toList ++ c.value)
  | none => pure ()
  let signal := (direct.orElse fun _ => named.bind fun c => Signal.number? c.value).getD
    Signal.termination
  Run.status 0
  match lists, rest with
  | true, [] => Run.write signalList
  | true, cs :: _ =>
    let n ← number cs
    let n := if 128 < n then n - 128 else n
    if 0 < n && n < Signal.limit then Run.write ((Signal.name n).toList ++ ['\n'])
    else Run.fail ("invalid signal number or exit status: ".toList ++ cs)
  | false, [] => usage
  | false, targets =>
    for cs in targets do
      match cs with
      | '%' :: _ =>
        let _ ← jobOf cs
        noProcess
      | '-' :: digits => send signal (← number digits)
      | _ => send signal (← number cs)

/-- What a deadly signal is called when a program ends by it. -/
def deathText (signal : Nat) : String :=
  match signal with
  | 1 => "Hangup"
  | 2 | 13 => ""
  | 3 => "Quit"
  | 4 => "Illegal instruction"
  | 5 => "Trace/breakpoint trap"
  | 6 => "Aborted"
  | 7 => "Bus error"
  | 8 => "Floating point exception"
  | 9 => "Killed"
  | 10 => "User defined signal 1"
  | 11 => "Segmentation fault"
  | 12 => "User defined signal 2"
  | 14 => "Alarm clock"
  | 15 => "Terminated"
  | _ => "Signal " ++ toString signal

/-- Tell that a program ended by a signal. -/
def tellDeath (signal : Nat) : Run Unit := do
  let text := deathText signal
  if !text.isEmpty then Run.complain text.toList

/-- Wait for the end of a background process, which is told the first time if a signal ended it. -/
def waitFor (process : Nat) : Run Unit := do
  let m ← get
  match if m.jobs.any (·.process = process) then m.background? process else none with
  | none => Run.status 127
  | some b =>
    let jobs := m.jobs.map fun job =>
      if job.process = process then { job with waited := true } else job
    let m := m.withBackground process fun b => { b with reaped := true }
    set { m with clock := max m.clock b.ended, status := b.status, jobs }
    if b.signalled && !b.reaped then tellDeath (b.status - 128)

/-- Wait for background processes. -/
def wait (args : List Octets) : Run Unit := do
  if args.isEmpty then
    modify fun m => { m with
      clock := m.jobs.foldl
        (fun clock job => max clock (((m.background? job.process).map (·.ended)).getD 0)) m.clock
      background := m.background.map fun b =>
        if m.jobs.any (·.process = b.process) then { b with reaped := true } else b
      jobs := m.jobs.map fun job => { job with waited := true } }
  Run.status 0
  for cs in args do
    waitFor (← if cs.head? = some '%' then do pure (← jobOf cs).process else number cs)

/-- Write the line about a job; one that has ended is not listed any more. -/
def showJob (choices : List Choice) (job : Job) : Run Unit := do
  let m ← get
  match m.background? job.process with
  | none => return
  | some b =>
    let digits (n : Nat) : Octets := (toString n).toList
    if choices.any fun c => c.letter = 'p' then Run.write (digits job.process ++ ['\n'])
    else
      let mark := match m.jobs.findIdx? fun j => j.process = job.process with
        | some 0 => '+'
        | some 1 => '-'
        | _ => ' '
      let state : String :=
        if m.clock < b.ended then "Running"
        else if b.signalled then deathText (b.status - 128)
        else if b.status = 0 then "Done"
        else "Done(" ++ toString b.status ++ ")"
      let front := ['['] ++ digits job.number ++ "] ".toList ++ [mark, ' '] ++
        (if choices.any fun c => c.letter = 'l' then digits job.process ++ [' '] else []) ++
        state.toList
      Run.write (front ++ List.replicate (max 1 (33 - front.length)) ' ' ++ ['\n'])
    if b.ended ≤ m.clock && !choices.any fun c => c.letter = 'p' then
      modify fun m => { m with jobs := m.jobs.filter fun j => j.process ≠ job.process }

/-- List background processes. -/
def jobs (args : List Octets) : Run Unit := do
  let (choices, rest) ← options "lp" args
  let all ← if rest.isEmpty then do pure (← get).jobs else rest.mapM jobOf
  all.forM (showJob choices)
  Run.status 0

/-- Go on with a job; that takes a terminal. -/
def resume (args : List Octets) : Run Unit := do
  let name ← match args with
    | [] =>
      if (← get).jobs.isEmpty then Run.fail "No current job".toList
      pure "(null)".toList
    | cs :: _ =>
      let _ ← jobOf cs
      pure cs
  Run.fail ("job ".toList ++ name ++ " not created under job control".toList)

/-- Say what to do when signals come. -/
def trap (args : List Octets) : Run Unit := do
  let (_, rest) ← options "" args
  Run.status 0
  let m ← get
  match rest with
  | [] =>
    let shown := Signal.names.filterMap fun name => (m.traps.lookup name).map fun a => (name, a)
    Run.write (shown.flatMap fun t =>
      "trap -- ".toList ++ inQuotes t.2 ++ [' '] ++ t.1.toList ++ ['\n'])
  | first :: more =>
    let resets := more.isEmpty || (Signal.number? first).isSome
    let action := if resets || first = ['-'] then none else some first
    for cs in if resets then rest else more do
      if (← get).status = 0 then
        match Signal.number? cs with
        | none =>
          Run.complain ("trap: ".toList ++ cs ++ ": bad trap".toList)
          Run.status 1
        | some n =>
          modify fun m =>
            let others := m.traps.filter fun t => t.1 ≠ Signal.name n
            { m with traps := (action.map fun a => (Signal.name n, a)).toList ++ others }

end BulkSuppress.Shell.Builtin
