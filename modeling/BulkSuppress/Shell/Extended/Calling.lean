import BulkSuppress.Shell.Extended.Directory
import BulkSuppress.Shell.Extended.Job
import BulkSuppress.Shell.Extended.Lookup
import BulkSuppress.Shell.Extended.Options
import BulkSuppress.Shell.Extended.Read
import BulkSuppress.Shell.Extended.Test
import BulkSuppress.Shell.Start

/-
  Simple commands in the extended dialect. Words are expanded before variables are set for the
  command; a name stands for a function, a command of the shell or a program, in this order. What
  cannot be done is told, and the script goes on. The commands that are part of the shell and run
  no other commands come first: each takes its arguments and notes how it ended, and none of them
  ends the script when it fails.
-/

namespace BulkSuppress.Shell.Extended

/-- A function as it is shown. -/
def shownFunction (m : Machine) (name : Octets) : Octets :=
  name ++ " () \n".toList ++ match m.functions.lookup (String.ofList name) with
    | some _ => "\x7b \n    ...\n\x7d\n".toList
    | none => []

/-- The action of a command that is part of the shell and takes texts. -/
def textAction? (name : String) : Option (List Octets → Run Unit) :=
  match name with
  | ":" | "true" => some fun _ => Run.status 0
  | "false" => some fun _ => Run.status 1
  | "echo" => some echo
  | "printf" => some printf
  | "test" => some test
  | "[" => some bracketTest
  | "cd" => some cd
  | "pwd" => some pwd
  | "pushd" => some pushd
  | "popd" => some popd
  | "dirs" => some dirs
  | "unset" => some unset
  | "set" => some settings
  | "shopt" => some switches
  | "shift" => some shift
  | "let" => some calculate
  | "getopts" => some getopts
  | "read" => some read
  | "alias" => some aliasing
  | "unalias" => some unalias
  | "hash" => some hash
  | "type" => some fun args => do types (shownFunction (← get)) args
  | "caller" => some caller
  | "trap" => some trap
  | "kill" => some kill
  | "wait" => some wait
  | "jobs" => some jobs
  | "umask" => some umask
  | "times" => some fun _ => times
  | "fg" | "bg" => some fun _ => resume
  | "suspend" => some fun _ => refuse "cannot suspend: no job control".toList
  | "logout" => some fun _ => refuse "not login shell: use \x60exit'".toList
  | "ulimit" => some fun args => do
    if args.length < 2 then Run.write "unlimited\n".toList
    Run.status 0
  | "enable" | "help" | "history" | "fc" | "bind" | "complete" | "compgen" | "compopt"
  | "disown" => some fun _ => Run.status 0
  | _ => none

/-- The action of a command that is part of the shell. -/
def action? (name : String) : Option (List Operand → Run Unit) :=
  match name with
  | "declare" | "typeset" => some (declare name shownFunction)
  | "local" => some declareLocal
  | "export" => some (declareFor "export" 'x')
  | "readonly" => some (declareFor "readonly" 'r')
  | name => (textAction? name).map fun act operands => act (operands.map Operand.toText)

/-! ## Calling commands -/

section

variable (run : Command → Run Unit)

/-! ## Showing commands -/

/-- The sign in front of commands that are shown; its first octet tells how deep they are. -/
def traceSign : Run Octets := do
  let m ← get
  let text := (m.value? "PS4").getD ['+', ' ']
  let sign ← match Grammar.quoted.run { rest := text, dialect := .extended } with
    | .ok (w, _) =>
      if w.all fun | .text .. => true | _ => false then pure text
      else
        let options := m.options
        set { m with options := options.filter (· ≠ 'x') }
        let cs := octetsOf (← layOut run { parts := false } w)
        modify fun after => { after with options, status := m.status, innerStatus := m.innerStatus }
        pure cs
    | .error _ => pure text
  return match sign with
  | c :: rest => List.replicate (m.nesting + 1) c ++ rest
  | [] => []

/-- Show a command before it runs. -/
def show' (cs : Octets) : Run Unit := do Run.complain ((← traceSign run) ++ cs)

/-- Show a command before it runs, if that is asked for. -/
def traced (cs : Unit → Octets) : Run Unit := do
  if (← get).isChosen 'x' then show' run (cs ())

/-- An argument as it is shown. -/
def shownOperand' (o : Operand) : Octets :=
  match o with
  | .setting s a =>
    match s.given with
    | .text _ => Quotes.traced o.toText
    | .items _ => s.shown a
  | .text cs => Quotes.traced cs

/-! ## Texts as scripts -/

/-- Run a text as a script, one level deeper. -/
def deeper' (act : Run Unit) : Run Unit := do
  modify fun m => { m with nesting := m.nesting + 1 }
  Run.guarded act fun before => modify fun m => { m with nesting := before.nesting - 1 }

/-- Run the arguments as a script. -/
def evaluate (args : List Octets) : Run Unit :=
  withOptions "eval" "" args fun _ rest => do
    let text := Octets.join [' '] rest
    if text.all fun c => c = ' ' || c = '\t' || c = '\n' then Run.status 0
    else
      modify fun m => { m with builtin := none }
      deeper' (runText run text "eval" (← get).line)

/-- Run what is to be done when something happens, and leave the status as it is. -/
def runEvent (name : String) : Run Unit := do
  let m ← get
  match m.traps.lookup name with
  | some action =>
    if !action.isEmpty then
      set { m with traps := m.traps.filter fun t => t.1 ≠ name, builtin := none }
      Run.guarded (deeper' (runText run action "" m.line)) fun _ => modify fun after => { after with
        traps := if (after.traps.lookup name).isSome then after.traps
          else (name, action) :: after.traps
        status := m.status
        builtin := m.builtin
        line := m.line }
  | none => return

/-! ## Functions and files -/

/-- Run a part of the script that can be left, inside a frame. -/
def framed (frame : Frame) (args : Option (List Octets)) (act : Run Unit) : Run Unit := do
  let before ← get
  set { before with
    frames := frame :: before.frames
    arguments := args.getD before.arguments
    builtin := none }
  let r ← Run.observed act
  modify fun m => { m with
    frames := before.frames
    arguments := if args.isSome then before.arguments else m.arguments
    builtin := before.builtin
    line := before.line }
  match r with
  | .error (.leave n) => Run.status n
  | .error e => throw e
  | .ok () => return

/-- Run a file as a part of the script. -/
def source (name : String) (args : List Octets) : Run Unit :=
  withOptions name "" args fun _ rest => do
    match rest with
    | [] =>
      Run.warn "filename argument required".toList
      usage name
    | file :: more =>
      let m ← get
      let isThere (path : Octets) : Bool := m.disk.isFile ⟨Octets.toText path⟩
      let path := if file.contains '/' then file
        else ((m.searchPaths file).find? isThere).getD file
      if m.disk.isDirectory ⟨Octets.toText path⟩ then refuse (file ++ ": is a directory".toList)
      else
        match m.readFile path with
        | .error e =>
          modify fun m => { m with builtin := none }
          refuse (file ++ ": ".toList ++ (reasonOf e).toList)
        | .ok text =>
          Run.status 0
          let frame : Frame :=
            { name := "source".toList, line := m.line, source := path, isFile := true }
          framed frame (if more.isEmpty then none else some more) (deeper' (do
            modify fun m => { m with line := 1 }
            runFile run text "source"))
          runEvent run "RETURN"

/-- Call a function, given the variables that are set for it as they were before. -/
def called (name : Octets) (body : Command) (args : List Octets)
    (former : List (String × Option Variable)) : Run Unit := do
  let before ← get
  set { before with
    loops := 0, calls := before.calls + 1, shift := 0, bundled := 0, saved := former :: before.saved }
  let origin := (before.origins.lookup (String.ofList name)).getD before.name
  let r ← Run.observed
    (framed { name, line := before.line, source := origin } (some args) (run body))
  let frame := (← get).saved.headD []
  for (x, old) in frame do modify (·.withVariable x old)
  modify fun m => { m with
    loops := before.loops
    calls := before.calls
    shift := before.shift
    bundled := before.bundled
    saved := before.saved }
  match r with
  | .error e => throw e
  | .ok () => return

/-! ## Programs -/

/-- The text that tells why a program cannot be run, and the status for that. -/
def whyNotStarted (e : SystemError) : String × Nat :=
  match e with
  | .code 8 => ("cannot execute binary file: Exec format error", 126)
  | e =>
    if e = .notFound || e = .code 2 then ("cannot execute: required file not found", 127)
    else (reasonOf e, 126)

/-- The path of a program that is not there to be run, and why. -/
def missingProgram (m : Machine) (name : Octets) (e : SystemError) : Octets × String × Nat :=
  let isDirectory (path : Octets) : Bool := m.disk.isDirectory ⟨Octets.toText path⟩
  if name.contains '/' then
    let e := match programAt m.disk name with
      | .error e => e
      | .ok _ => e
    if isDirectory name then (name, "Is a directory", 126)
    else (name, reasonOf e, if e = .notFound then 127 else 126)
  else
    match (m.searchPaths name).find? fun path => m.disk.isFile ⟨Octets.toText path⟩ with
    | some path => (path, reasonOf .permissionDenied, 126)
    | none => (name, "command not found", 127)

/-- The number of groups of the variables that are set for a command or a function alone. -/
def ownGroups : Nat := 4

/-- Names that were set one after the other, in the order of their groups. -/
def inGroups (names : List String) : List String :=
  names.reverse.mergeSort fun a b => bucket ownGroups a.toList ≤ bucket ownGroups b.toList

/--
The machine with what a program gets: first what is set for it alone, then what functions have for
themselves, and at last its path.
-/
def forProgram (m : Machine) (temporary : List String) (path : Octets) : Machine :=
  let names := (temporary :: m.saved.map fun frame => frame.map (·.1)).flatMap inGroups
  let names := names.eraseDups
  let m := m.forProgram
  let own := names.filterMap fun name => (m.bindings.lookup name).map fun v => (name, v)
  let others := m.bindings.filter fun v => !names.contains v.1 && v.1 ≠ "_"
  { m with bindings := own ++ others ++ [("_", { value := some path, exported := true })] }

/-- Run a program in a process of its own. -/
def spawned (name : Octets) (args : List Octets) (temporary : List String) : Run Unit := do
  let m ← get
  let unable (text : Octets) (why : String) (status : Nat) : Run Unit := do
    Run.warn (text ++ (": " ++ why).toList)
    Run.status status
  match m.search name with
  | .error e =>
    let (text, why, status) := missingProgram m name e
    match m.functions.lookup "command_not_found_handle" with
    | some body =>
      if status = 127 && !name.contains '/' then
        inCopy run (called run "command_not_found_handle".toList body (name :: args) [])
      else unable text why status
    | none => unable text why status
  | .ok path =>
    remember name path true
    let ended ← Run.inProcess do
      modify fun m => { forProgram m temporary path with
        outerTraps := some (m.outerTraps.getD m.traps), jobs := [] }
      runAsCommand run name path args
    goOn
    match ended with
    | .error e =>
      let (why, status) := whyNotStarted e
      unable path why status
    | .ok (.killed signal) =>
      if signal ≠ 2 && signal ≠ 13 then
        Run.warn ((toString (Machine.processNumber + 1)).toList ++ [' '] ++
          (Builtin.deathText signal).toList ++
          List.replicate (24 - (Builtin.deathText signal).length) ' ' ++
          Octets.join [' '] (name :: args))
      Run.status (128 + signal)
    | .ok (.exited status) => Run.status status

/-- Have the shell be a program from now on. -/
def replaced (name : Octets) (args : List Octets) (temporary : List String) : Run Unit := do
  let m ← get
  let unable (text : Octets) (why : String) (status : Nat) : Run Unit := do
    Run.warn (text ++ (": " ++ why).toList)
    throw (.exit status)
  match m.search name with
  | .error e =>
    let (text, why, status) := missingProgram m name e
    if status = 127 then unable name (if name.contains '/' then why else "not found") status
    else
      let inner := (← get).builtin
      modify fun m => { m with builtin := none }
      Run.warn (text ++ (": " ++ why).toList)
      modify fun m => { m with builtin := inner }
      unable text ("cannot execute: " ++ why) status
  | .ok path =>
    modify fun m => { forProgram m temporary path with traps := m.traps.filter fun t => t.2.isEmpty }
    match ← runAsCommand run name path args with
    | .ok status =>
      modify fun m => { m with traps := [] }
      throw (.exit status)
    | .error e =>
      let (why, status) := whyNotStarted e
      unable path why status

/-! ## Leaving -/

/-- The number that an argument has to be, or the last status. -/
def statusArgument (args : List Octets) : Run Nat := do
  match behindDashes args with
  | [] => return (← get).status
  | [cs] =>
    match number? cs with
    | some n => return (n % 256).toNat
    | none =>
      Run.warn (cs ++ ": numeric argument required".toList)
      return 2
  | cs :: _ =>
    match number? cs with
    | some _ => discarded "too many arguments".toList
    | none =>
      Run.warn (cs ++ ": numeric argument required".toList)
      return 2

/-- Leave a function, or a file that runs as a part of the script. -/
def leave (args : List Octets) : Run Unit := do
  if (← get).frames.isEmpty then
    refuse "can only \x60return' from a function or sourced script".toList 2
  else throw (.leave (← statusArgument args))

/-- Leave loops, or go on with their next round. -/
def leaveLoops (args : List Octets) (how : Nat → Interrupt) : Run Unit := do
  let m ← get
  if m.loops = 0 then
    Run.warn "only meaningful in a \x60for', \x60while', or \x60until' loop".toList
    Run.status 0
  else
    let rest := behindDashes args
    match rest with
    | [cs] =>
      match number? cs with
      | none =>
        Run.warn (cs ++ ": numeric argument required".toList)
        throw (.exit 128)
      | some n =>
        if n ≤ 0 then
          refuse (cs ++ ": loop count out of range".toList)
          throw (.break_ m.loops)
        else
          Run.status 0
          throw (how (min n.toNat m.loops))
    | [] =>
      Run.status 0
      throw (how 1)
    | _ => discarded "too many arguments".toList

/-- Put a call of a text behind a text. -/
def callText (text : Octets) : Run Unit := do
  let m ← get
  set { m with builtin := none }
  Run.guarded (deeper' (runText run text "" m.line)) fun _ =>
    modify fun after => { after with builtin := m.builtin }

/-- The commands of the shell that run others, or put an end to something. -/
def control? (name : String) : Option (List Octets → Run Unit) :=
  match name with
  | "eval" => some (evaluate run)
  | "." | "source" => some (source run name)
  | "mapfile" | "readarray" => some (mapfile (callText run) name)
  | "exit" => some fun args => do throw (.exit (← statusArgument args))
  | "return" => some leave
  | "break" => some fun args => leaveLoops args .break_
  | "continue" => some fun args => leaveLoops args .continue_
  | _ => none

/-! ## Calls -/

/-- What the name of a command stands for. -/
inductive Callee where
  | function (body : Command)
  | builtin (act : Run Unit)
  | program

/-- What a name stands for, given the arguments. -/
def calleeOf (m : Machine) (name : Octets) (args : List Operand) (skipsFunctions : Bool) : Callee :=
  let text := String.ofList name
  match if skipsFunctions then none else m.functions.lookup text with
  | some body => .function body
  | none =>
    match control? run text, action? text with
    | some act, _ => .builtin (act (args.map Operand.toText))
    | none, some act => .builtin (act args)
    | none, none => .program

/-- Tell that not all that a command of the shell had to write could be written. -/
def flushed : Run Unit := do
  let m ← get
  match m.unwritten with
  | some e =>
    set { m with unwritten := none }
    refuse ("write error: ".toList ++ (reasonOf e).toList)
  | none => return

/-- Run a command of the shell itself. -/
def builtIn (name : Octets) (act : Run Unit) : Run Unit := do
  let before := (← get).builtin
  modify fun m => { m with builtin := some name }
  let r ← Run.observed act
  flushed
  modify fun m => { m with builtin := before }
  match r with
  | .error (.failed n) => Run.status n
  | .error e => throw e
  | .ok () => return

/-- What is set for a command alone: the names, and what the variables were before. -/
abbrev Former := List (String × Option Variable)

/-- Call what a name stands for. -/
def call (former : Former) (name : Octets) (args : List Operand) (skipsFunctions : Bool) :
    Run Unit := do
  match calleeOf run (← get) name args skipsFunctions with
  | .function body => called run name body (args.map Operand.toText) former
  | .builtin act => builtIn name act
  | .program => spawned run name (args.map Operand.toText) (former.map (·.1))

/-- Run a command as options say: without functions, or only looked up. -/
def command (former : Former) (args : List Operand) : Run Unit := do
  match operandOptions "pVv" args with
  | .error (.unknown letter _) | .error (.noValue letter) =>
    builtIn "command".toList do
      Run.warn (['-', letter] ++ ": invalid option".toList)
      usage "command"
  | .ok (choices, rest) =>
    let asks := has choices 'v' || has choices 'V'
    match rest with
    | [] => Run.status 0
    | name :: more =>
      if asks then
        builtIn "command".toList
          (describe (shownFunction (← get)) (has choices 'V') (rest.map Operand.toText))
      else call run former name.toText more true

/-- Run a command that is part of the shell. -/
def onlyBuiltin (former : Former) (args : List Operand) : Run Unit := do
  match args.dropWhile fun o => o.toText = ['-', '-'] with
  | [] => Run.status 0
  | name :: more =>
    let text := name.toText
    if commandNames.contains (String.ofList text) then call run former text more true
    else builtIn "builtin".toList (refuse (text ++ ": not a shell builtin".toList))

/-- Have the shell be a program, or keep the redirections. -/
def executed (former : Former) (args : List Operand) : Run Unit :=
  builtIn "exec".toList do
    withOptions "exec" "cla:" (args.map Operand.toText) fun choices rest => do
      match rest with
      | [] => Run.status 0
      | name :: more =>
        if has choices 'c' then
          modify fun m => { m with
            bindings := m.bindings.map fun v => (v.1, { v.2 with exported := false }) }
        replaced run name more (former.map (·.1))

/-- Run a command of which the words have been expanded. -/
def callWords (former : Former) : List Operand → Run Unit
  | [] => return
  | name :: args => do
    let text := String.ofList name.toText
    let isFunction := ((← get).functions.lookup text).isSome
    match isFunction, text with
    | false, "command" => command run former args
    | false, "builtin" => onlyBuiltin run former args
    | false, "exec" => executed run former args
    | _, _ => call run former name.toText args false

/-! ## Simple commands -/

/-- The arguments that a word stands for. -/
def operandsOf : Word → Run (List Operand)
  | [.assigned a] => do
    let s ← settingOf run a
    return [.setting s a]
  | w => do return (← fieldsOfWord run w).map .text

/-- Make an assignment of a command that has no words. -/
def assignNow (a : Assignment) : Run Unit := do
  let s ← settingOf run a
  traced run fun _ => s.shown a
  s.make

/-- Set a variable for a command alone. -/
def assignFor (a : Assignment) : Run Unit := do
  let s ← settingOf run a
  traced run fun _ => s.shown a
  let m ← get
  let name := (m.slot s.slot).name
  let v := (m.binding? name).getD {}
  if v.readOnly then Run.warn (name.toList ++ ": readonly variable".toList)
  else
    let text ← match s.given with
      | .text cs => conformed v (if s.appends then some ((m.held? name).getD []) else none) cs
      | .items _ => pure (s.shown a)
    modify (·.withVariable name (some { value := some text, exported := true }))
    if name = "PATH" then modify fun m => { m with remembered := [] }

/-- Run with variables that are set for a command alone. -/
def withAssignments (assignments : List Assignment) (act : Former → Run Unit) : Run Unit := do
  let m ← get
  let names := assignments.map fun | .mk name .. => (m.slot ⟨name, none⟩).name
  let former : Former := names.map fun name => (name, m.binding? name)
  if former.isEmpty then act []
  else
    Run.guarded (do
      assignments.forM (assignFor run)
      act former) fun _ => do
        for (name, old) in former do modify (·.withVariable name old)

/-- Run a simple command. -/
def simple (line : Nat) (assignments : List Assignment) (words : List Word)
    (redirections : List Redirection) : Run Unit := do
  Run.atLine line
  modify fun m => { m with innerStatus := 0 }
  let line := (← get).line
  runEvent run "DEBUG"
  let operands := (← words.mapM (operandsOf run)).flatten
  let followedBy (act : Run Unit) : Run Unit := do
    if ← followedAll run redirections then act else Run.status 1
  match operands with
  | [] =>
    assignments.forM (assignNow run)
    modify fun m => { m with lastArgument := [] }
    redirected (followedBy (do Run.status (← get).innerStatus))
  | name :: args =>
    let keeps := name.toText = "exec".toList && args.isEmpty
    let act : Run Unit := withAssignments run assignments fun former => do
      traced run fun _ => Octets.join [' '] (operands.map shownOperand')
      let last := (operands.getLast?.map Operand.toText).getD []
      followedBy (callWords run former operands)
      modify fun m => { m with lastArgument := last }
    if keeps then act else redirected act
  modify fun m => { m with line }

end

end BulkSuppress.Shell.Extended
