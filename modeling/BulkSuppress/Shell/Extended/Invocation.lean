import BulkSuppress.Shell.Builtin.Directory
import BulkSuppress.Shell.Extended.Options

/-
  A shell of the extended dialect that starts: its variables, its options, and the script that its
  arguments name. It has nothing of the program that starts it but the environment.
-/

namespace BulkSuppress.Shell.Extended

/-! ## Variables -/

/-- The value of a variable that counts the shells inside each other, one more. -/
def deeper (told : Option Octets) : Octets :=
  (toString (((told.bind number?).getD 0) + 1)).toList

/-- The variables that a shell sets for itself, if its environment does not. -/
def ownVariables (path : Octets) : List (String × Variable) :=
  let kept (name : String) (v : Variable) : String × Variable := (name, { v with readOnly := true })
  let number (n : Nat) : Variable := { value := some (toString n).toList, calculates := true }
  let text (value : String) : Variable := { value := some value.toList }
  [("BASH", { value := some path }), ("BASH_VERSION", text "5.2.15(1)-release"),
    kept "BASH_VERSINFO" { elements := some (.ofList (Machine.version.map String.toList)), isFilled := true },
    ("BASH_ARGC", { elements := some (.listed []), isFilled := true }),
    ("BASH_ARGV", { elements := some (.listed []), isFilled := true }),
    ("DIRSTACK", { elements := some (.listed []), isFilled := true }), kept "EUID" (number 0),
    ("GROUPS", { elements := some (.listed []), isFilled := true }), ("HOSTNAME", text "localhost"),
    ("HOSTTYPE", text "x86_64"), ("MACHTYPE", text "x86_64-pc-linux-gnu"),
    ("OLDPWD", { exported := true }), ("OPTERR", text "1"), ("OPTIND", text "1"),
    ("OSTYPE", text "linux-gnu"), ("PATH", text defaultSearch), ("PS4", text "+ "),
    ("SHELL", text "/bin/bash"), ("TERM", text "dumb"), kept "UID" (number 0)]

/-- The path of the working directory for a shell that starts, given the one in its environment. -/
def startingPath (m : Machine) (told : Option Octets) : Octets :=
  let isTrue (cs : Octets) : Bool := cs.head? = some '/' &&
    (m.disk.resolve ⟨Octets.toText cs⟩).toOption = some m.disk.workingDirectory
  (told.filter isTrue).getD (Builtin.physical m.disk)

/-- A shell that starts. -/
def fresh (m : Machine) (name : Octets) : Machine :=
  let given : List (String × Variable) := m.bindings.filterMap fun v =>
    if v.2.exported then v.2.value.map fun cs => (v.1, { value := some cs, exported := true })
    else none
  let text (name : String) : Option Octets := (given.lookup name).bind (·.value)
  let here := startingPath m (text "PWD")
  let path := if name.contains '/' then name else ((m.search name).toOption).getD name
  let exported (cs : Octets) : Variable := { value := some cs, exported := true }
  let parent : Variable :=
    { value := some (toString (Machine.processNumber - 1)).toList, calculates := true, readOnly := true }
  let sure : List (String × Variable) :=
    [("PWD", exported here), ("SHLVL", exported (deeper (text "SHLVL"))),
      ("IFS", { value := some [' ', '\t', '\n'] }), ("PPID", parent)]
  let others := given.filter fun v => (sure.lookup v.1).isNone && v.1 ≠ "_"
  { disk := m.disk
    dialect := .extended
    channels := m.channels
    collected := m.collected
    descriptors := m.descriptors
    name
    here
    bindings := sure ++ others ++ (ownVariables path).filter fun v => (others.lookup v.1).isNone
    traps := m.traps.filter fun t => t.2.isEmpty
    documents := m.documents
    serial := m.serial
    clock := m.clock
    process := m.process
    level := m.level + 1
    background := m.background
    mask := m.mask
    attributes := m.attributes
    switches := Switches.initial
    lastArgument := path
    line := 0 }

/-! ## Arguments -/

/-- What the arguments of a shell ask for. -/
structure Invocation where
  /-- The first of the other arguments is a script. -/
  isText : Bool := false
  /-- The script is read from the input. -/
  readsInput : Bool := false
  /-- The version is asked for. -/
  version : Bool := false
  rest : List Octets

/-- Take the options that letters say; the answer is what is left of the arguments, if all is well. -/
def takeLetters (on : Bool) (v : Invocation) : Octets → Run (Option Invocation)
  | [] => return some v
  | c :: letters => do
    match c with
    | 'c' => takeLetters on { v with isText := true } letters
    | 's' => takeLetters on { v with readsInput := true } letters
    | 'i' | 'l' | 'r' | 'D' => takeLetters on v letters
    | 'o' =>
      match v.rest with
      | name :: rest =>
        if ← setByName on name then takeLetters on { v with rest } letters
        else
          Run.complain ((← get).name ++ ": ".toList ++ name ++ ": invalid option name".toList)
          return none
      | [] =>
        Run.write (optionTable (← get) on)
        takeLetters on v letters
    | 'O' =>
      match v.rest with
      | name :: rest =>
        modify (·.withSwitch on (String.ofList name))
        takeLetters on { v with rest } letters
      | [] => takeLetters on v letters
    | c =>
      if Switches.letters.contains c then
        modify (·.withChoice on c)
        takeLetters on v letters
      else
        let sign := if on then '-' else '+'
        Run.complain ((← get).name ++ ": ".toList ++ [sign, c] ++ ": invalid option".toList)
        return none

/-- Take the options in front of the arguments of a shell. -/
def takeOptions : Nat → Invocation → Run (Option Invocation)
  | 0, v => return some v
  | n + 1, v => do
    match v.rest with
    | ['-'] :: rest | ['-', '-'] :: rest => return some { v with rest }
    | ('-' :: '-' :: word) :: rest =>
      match String.ofList word with
      | "version" => return some { v with version := true }
      | "rcfile" | "init-file" => takeOptions n { v with rest := rest.drop 1 }
      | "verbose" =>
        modify (·.withChoice true 'v')
        takeOptions n { v with rest }
      | "posix" =>
        modify (·.withSwitch true "posix")
        takeOptions n { v with rest }
      | "norc" | "noprofile" | "login" | "debugger" | "noediting" =>
        takeOptions n { v with rest }
      | _ =>
        Run.complain ((← get).name ++ ": --".toList ++ word ++ ": invalid option".toList)
        return none
    | (sign :: c :: letters) :: rest =>
      if sign = '-' || sign = '+' then
        match ← takeLetters (sign = '-') { v with rest } (c :: letters) with
        | some v => takeOptions n v
        | none => return none
      else return some v
    | _ => return some v

/-- The version as it is told. -/
def versionText : String :=
  "GNU bash, version 5.2.15(1)-release (x86_64-pc-linux-gnu)\n" ++
    "Copyright (C) 2022 Free Software Foundation, Inc.\n" ++
    "License GPLv3+: GNU GPL version 3 or later <http://gnu.org/licenses/gpl.html>\n\n" ++
    "This is free software; you are free to change and redistribute it.\n" ++
    "There is NO WARRANTY, to the extent permitted by law.\n"

/-! ## Scripts -/

section

variable (run : Command → Run Unit)

/-- The first line of a file holds what no script has. -/
def isBinary (content : Octets) : Bool :=
  ((content.take 80).takeWhile (· ≠ '\n')).contains '\x00' || utilityMark.isPrefixOf content

/-- Run the file that is named as a script. -/
def runScript (script : Octets) (arguments : List Octets) : Run Unit := do
  let m ← get
  let told (why : String) (status : Nat) : Run Unit := do
    Run.complain (m.name ++ ": ".toList ++ script ++ ": ".toList ++ why.toList)
    throw (.exit status)
  let found := if script.contains '/' || m.disk.exists? ⟨Octets.toText script⟩ then script
    else ((m.search script).toOption).getD script
  match m.readFile found with
  | .error e => told (reasonOf e) (if e = .notFound then 127 else 126)
  | .ok text =>
    if isBinary text then
      modify fun m => { m with name := found }
      Run.complain (found ++ ": ".toList ++ found ++ ": cannot execute binary file".toList)
      throw (.exit 126)
    else
      modify fun m => { m with name := found, arguments, line := 1 }
      runFile run text

/-- Run the shell as a program. -/
def shellProgram (name : Octets) (args : List Octets) : Run Nat := do
  modify fun m => fresh m name
  finished run do
    match ← takeOptions (args.length + 1) { rest := args } with
    | none => throw (.exit 2)
    | some v =>
      if v.version then
        Run.write versionText.toList
        throw (.exit 0)
      else if v.isText then
        match v.rest with
        | [] =>
          Run.complain (name ++ ": -c: option requires an argument".toList)
          throw (.exit 2)
        | text :: more =>
          modify fun m => { m with
            name := more.headD name, arguments := more.drop 1, line := 1
            options := 'c' :: m.options }
          runText run text "-c"
      else if v.readsInput || v.rest.isEmpty then
        modify fun m => { m with arguments := v.rest, line := 1, options := 's' :: m.options }
        let text ← Run.readAll
        runFile run text
      else runScript run (v.rest.headD []) (v.rest.drop 1)

end

end BulkSuppress.Shell.Extended
