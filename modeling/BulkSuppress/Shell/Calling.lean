import BulkSuppress.Shell.Builtin
import BulkSuppress.Shell.Start

/-
  Simple commands in the dialect of all shells. The first word of a command names a function, a
  command of the shell itself or a program; special commands end the script when they fail.
-/

namespace BulkSuppress.Shell

/-- The number of function calls inside each other that a script can make. -/
def callLimit : Nat := 1000

section

variable (run : Command → Run Unit)

/-! ## Programs -/

/-- Run a program in a process of its own. -/
def spawned (name : Octets) (args : List Octets) (settings : List (String × Octets)) :
    Run Unit := do
  let m ← get
  let unable (e : SystemError) (status : Nat) : Run Unit := do
    Run.warn (name ++ ": ".toList ++ (whyNotRun e).toList)
    Run.status status
  match m.search name with
  | .error e =>
    unable e (if name.contains '/' && !(e = .notFound || e = .notDirectory || e = .nameTooLong ||
      e = .tooManyLinks) then 126 else 127)
  | .ok path =>
    Builtin.remember name path
    let ended ← Run.inProcess do
      modify fun m => { m with outerTraps := some (m.outerTraps.getD m.traps), jobs := [] }
      for (x, value) in settings do
        modify (·.withVariable x (some { value := some value, exported := true }))
      modify (·.forProgram)
      runAsCommand run name path args
    goOn
    match ended with
    | .error e => unable e (if e = .notFound || e = .notDirectory then 127 else 126)
    | .ok (.killed signal) =>
      Builtin.tellDeath signal
      Run.status (128 + signal)
    | .ok (.exited status) => Run.status status

/-! ## Commands that run others -/

/-- The number of loops that the arguments ask for, or of all loops if these are fewer. -/
def loopCount (args : List Octets) : Run Nat := do
  match args with
  | [] => return min 1 (← get).loops
  | cs :: _ =>
    let n ← Builtin.number cs
    if n = 0 then Run.fail ("Illegal number: ".toList ++ cs)
    return min n (← get).loops

/-- Run a file as a part of the script. -/
def dot (args : List Octets) : Run Unit := do
  match args with
  | [] => Run.status 0
  | file :: _ =>
    let m ← get
    let readable (path : Octets) : Bool := m.disk.isFile ⟨Octets.toText path⟩
    let path := if file.contains '/' then some file else (m.searchPaths file).find? readable
    match path with
    | none => Run.fail (file ++ ": not found".toList)
    | some path =>
      match m.readFile path with
      | .error e => Run.fail (openProblem "open" "No such file" path e)
      | .ok text =>
        Run.status 0
        modify fun m => { m with builtin := some path, tested := false }
        match ← Run.observed (runFile run text) with
        | .error (.leave n) => Run.status n
        | .error e => throw e
        | .ok () => return

/-- The special commands that run others, or put an end to something. -/
def special (name : String) (args : List Octets) : Option (Run Unit) :=
  match name with
  | "." => some (dot run args)
  | "eval" => some do
    let text := Octets.join [' '] args
    if text.all fun c => c = ' ' || c = '\t' || c = '\n' then Run.status 0
    else runText run text
  | "exit" => some do
    match args with
    | [] => throw (.exit (← get).status)
    | cs :: _ => throw (.exit (← Builtin.number cs))
  | "return" => some do
    match args with
    | [] => throw (.leave (← get).status)
    | cs :: _ => throw (.leave (← Builtin.number cs))
  | "break" => some do
    let n ← loopCount args
    Run.status 0
    if n ≠ 0 then throw (.break_ n)
  | "continue" => some do
    let n ← loopCount args
    Run.status 0
    if n ≠ 0 then throw (.continue_ n)
  | _ => none

/-- Have the shell be a program from now on. -/
def replaced (name : Octets) (args : List Octets) : Run Unit := do
  let unable (e : SystemError) : Run Unit :=
    Run.fail (name ++ ": ".toList ++ (whyNotRun e).toList)
      (if e = .notFound || e = .notDirectory then 127 else 126)
  match (← get).search name with
  | .error e => unable e
  | .ok path =>
    modify fun m => { m.forProgram with traps := m.traps.filter fun t => t.2.isEmpty }
    match ← runAsCommand run name path args with
    | .ok status =>
      modify fun m => { m with traps := [] }
      throw (.exit status)
    | .error e => unable e

/-- Call a function. -/
def called (body : Command) (args : List Octets) (settings : List (String × Octets)) :
    Run Unit := do
  let before ← get
  if callLimit ≤ before.calls then
    Run.fail ("Maximum function recursion depth (".toList ++ (toString callLimit).toList ++
      ") reached".toList)
  let frame := settings.map fun (s : String × Octets) => (s.1, before.binding? s.1)
  set { before with
    arguments := args
    loops := 0
    calls := before.calls + 1
    saved := frame :: before.saved
    bundled := 0 }
  for (x, value) in settings do
    Run.assign x value
    modify fun m => m.withVariable x ((m.binding? x).map fun v => { v with exported := true })
  let r ← Run.observed (run body)
  let frame := (← get).saved.head?.getD []
  for (x, old) in frame do modify (·.withVariable x old)
  modify fun m => { m with
    arguments := before.arguments
    loops := before.loops
    calls := before.calls
    saved := before.saved
    bundled := before.bundled }
  match r with
  | .error (.leave n) => Run.status n
  | .error e => throw e
  | .ok () => return

/-- Tell that not all that a command of the shell had to write could be written. -/
def flushed (name : Octets) : Run Unit := do
  let m ← get
  if m.unwritten.isSome then
    set { m with unwritten := none, status := m.status ||| 1 }
    Run.warn (name ++ ": I/O error".toList)

/-- Run a command of the shell itself. Only special ones end the script when they fail. -/
def builtIn (name : Octets) (isSpecial : Bool) (act : Run Unit) : Run Unit := do
  let before := (← get).builtin
  modify fun m => { m with builtin := some name }
  let r ← Run.observed act
  flushed name
  modify fun m => { m with builtin := before }
  match r with
  | .error (.failed n) => if isSpecial then throw (.failed n) else Run.status n
  | .error e => throw e
  | .ok () => return

/-- What the name of a command stands for. -/
inductive Callee where
  | special (act : Run Unit)
  | regular (act : Run Unit)
  | function (body : Command)
  | program

/-- What a name stands for, given the arguments. -/
def calleeOf (m : Machine) (name : Octets) (args : List Octets) (skipsFunctions : Bool) : Callee :=
  let text := String.ofList name
  match Grammar.specialNames.contains text, special run text args, Builtin.action? text with
  | true, some act, _ => .special act
  | true, none, some act => .special (act args)
  | true, none, none => .program
  | false, _, action =>
    match if skipsFunctions then none else m.functions.lookup text, action with
    | some body, _ => .function body
    | none, some act => .regular (act args)
    | none, none => .program

/-- Run a command with settings of variables for it. -/
def withSettings (settings : List (String × Octets)) (act : Run Unit) : Run Unit := do
  let m ← get
  let saved := settings.map fun (s : String × Octets) => (s.1, m.binding? s.1)
  for (x, value) in settings do Run.assign x value
  Run.guarded act fun _ => do
    for (x, old) in saved do modify (·.withVariable x old)

/-- Call what a name stands for. -/
def call (settings : List (String × Octets)) (name : Octets) (args : List Octets)
    (skipsFunctions : Bool) : Run Unit := do
  match calleeOf run (← get) name args skipsFunctions with
  | .special act =>
    if skipsFunctions then withSettings settings (builtIn name false act)
    else
      for (x, value) in settings do Run.assign x value
      builtIn name true act
  | .regular act => withSettings settings (builtIn name false act)
  | .function body => called run body args settings
  | .program => spawned run name args settings

/-- Run a command of which the words have been expanded. -/
def callWords (settings : List (String × Octets)) (isSpecial : Bool) : List Octets → Run Unit
  | [] => return
  | name :: args => do
    if name = "command".toList then
      match Builtin.commandWords? args with
      | some (inner :: rest) => call run settings inner rest true
      | _ => withSettings settings (builtIn name false (Builtin.describe args))
    else if name = "exec".toList then
      match if args.head? = some ['-', '-'] then args.drop 1 else args with
      | [] =>
        for (x, value) in settings do Run.assign x value
        Run.status 0
      | program :: rest =>
        for (x, value) in settings do
          Run.assign x value
          modify fun m => m.withVariable x ((m.binding? x).map fun v => { v with exported := true })
        builtIn name isSpecial (replaced run program rest)
    else call run settings name args false

/-- The command that marks variables has the first of these words as its name. -/
def declares (fields : List Octets) : Bool :=
  match fields.dropWhile (· = "command".toList) with
  | name :: _ => ["export", "readonly", "local"].contains (String.ofList name)
  | [] => false

/-- The fields of the words of a command, behind those that there are. -/
def commandFields (sofar : List Octets) : List Word → Run (List Octets)
  | [] => return sofar
  | w :: ws => do
    match declares sofar, Grammar.assignment? w with
    | true, some (name, value) =>
      let cs ← assignedText run value
      commandFields (sofar ++ [name.toList ++ ['='] ++ cs]) ws
    | _, _ =>
      let fields ← fieldsOfWord run w
      commandFields (sofar ++ fields) ws

/-- Show a command before it runs, if that is asked for. -/
def shown (settings : List (String × Octets)) (fields : List Octets) : Run Unit := do
  if (← get).has 'x' then
    let sign := ((← get).value? "PS4").getD ['+', ' ']
    let texts := settings.map (fun s => s.1.toList ++ ['='] ++ s.2) ++ fields
    Run.complain (sign ++ Octets.join [' '] texts)

/-- The name and the value of each assignment. -/
def settingsOf (assignments : List Assignment) : Run (List (String × Octets)) :=
  assignments.mapM fun | .mk name _ _ w => do return (name, ← assignedText run w)

/-- Run a simple command. -/
def simple (line : Nat) (assignments : List Assignment) (words : List Word)
    (redirections : List Redirection) : Run Unit := do
  modify fun m => { m with line, innerStatus := 0 }
  let fields ← commandFields run [] words
  let before ← get
  let name := fields.head?.getD []
  let keeps := name = "exec".toList && (fields.drop 1).all (· = ['-', '-'])
  let isSpecial := Grammar.specialNames.contains (String.ofList name)
  let act : Run Unit := do
    if !(← followed run redirections) then
      Run.status 2
      if isSpecial then throw (.failed 2)
    else if fields.isEmpty then
      let mut settings : List (String × Octets) := []
      for .mk x _ _ w in assignments do
        let cs ← assignedText run w
        settings := settings ++ [(x, cs)]
        Run.assign x cs
      modify fun m => m.withDescriptor 2 (before.descriptors.lookup 2)
      shown settings []
      Run.status (← get).innerStatus
    else
      let settings ← settingsOf run assignments
      let inside := (← get).descriptors
      modify fun m => { m with descriptors := before.descriptors }
      shown settings fields
      modify fun m => { m with descriptors := inside }
      callWords run settings isSpecial fields
  if keeps then act else redirected act
  modify fun m => { m with line }

end

end BulkSuppress.Shell
