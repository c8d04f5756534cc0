import BulkSuppress.Shell.Machine.Basic

/-
  What a running script does with its open files and variables: reading and writing with a clock,
  complaints, and work in a copy of the script. The programs that it starts are files that can be
  run: the utilities of the system are files like others, whose content is nothing but their name
  behind a mark; all other programs are scripts.
-/

namespace BulkSuppress.Shell

namespace Machine

/-- Why nothing can be written to an open file. -/
def refusal? (m : Machine) (number : Nat) : Option SystemError :=
  match m.channels[number]? with
  | some (.zeros false) => some (.code 28)
  | some (.supply _) => some (.code 9)
  | _ => none

/-- The machine with octets written to an open file. -/
def written (m : Machine) (number : Nat) (cs : Octets) : Machine :=
  match m.channels[number]? with
  | some (.collector n) =>
    { m with collected := m.collected.modify n (⟨m.clock, m.process, cs⟩ :: ·) }
  | some (.file loc position appends) =>
    let content := m.contentAt loc
    let position := if appends then content.length else position
    let bytes := Octets.toBytes (overwritten content position cs)
    let m := m.withContent loc bytes
    { m with channels := m.channels.set number (.file loc (position + cs.length) appends) }
  | _ => m

/-- What is still to be read from an open file. -/
def unread (m : Machine) (number : Nat) : Octets :=
  match m.channels[number]? with
  | some (.supply [(_, cs)]) => cs
  | some (.supply rest) => rest.flatMap (·.2)
  | some (.file loc position _) => (m.contentAt loc).drop position
  | some (.zeros _) => List.replicate zeroLimit '\x00'
  | _ => []

/-- What is left of texts behind some octets, and the time when these have come. -/
def behind (count clock : Nat) : List (Nat × Octets) → List (Nat × Octets) × Nat
  | [] => ([], clock)
  | (time, cs) :: rest =>
    if count = 0 then ((time, cs) :: rest, clock)
    else if cs.length ≤ count then behind (count - cs.length) (max clock time) rest
    else ((time, cs.drop count) :: rest, max clock time)

/-- The machine with everything read from an open file, up to its end. -/
def afterEnd (m : Machine) (number : Nat) : Machine :=
  match m.channels[number]? with
  | some (.supply rest) =>
    { m with
      channels := m.channels.set number (.supply [])
      clock := rest.foldl (fun clock x => max clock x.1) m.clock }
  | some (.file loc _ appends) =>
    { m with channels := m.channels.set number (.file loc (m.contentAt loc).length appends) }
  | _ => m

/-- The machine with some octets read from an open file. -/
def afterReading (m : Machine) (number count : Nat) : Machine :=
  match m.channels[number]? with
  | some (.supply rest) =>
    let (rest, clock) := behind count m.clock rest
    { m with channels := m.channels.set number (.supply rest), clock }
  | some (.file loc position appends) =>
    { m with channels := m.channels.set number (.file loc (position + count) appends) }
  | _ => m

/--
The machine with octets that were read last from an open file given back to it. A pipe only takes
them if its reader has read no more than it needed.
-/
def givenBack (m : Machine) (number : Nat) (cs : Octets) (fromPipe : Bool) : Machine :=
  match m.channels[number]? with
  | some (.file loc position appends) =>
    { m with channels := m.channels.set number (.file loc (position - cs.length) appends) }
  | some (.supply rest) =>
    if fromPipe then { m with channels := m.channels.set number (.supply ((m.clock, cs) :: rest)) }
    else m
  | _ => m

/-- The number for the next job. -/
def nextJob (m : Machine) : Nat :=
  let taken := (m.jobs.filter fun job => !job.waited).map (·.number)
  ((List.range (taken.length + 1)).find? fun n => !taken.contains (n + 1)).getD 0 + 1

/-- The machine without the job that has the number for the next one, if it has been waited for. -/
def withoutWaited (m : Machine) : Machine :=
  let number := m.nextJob
  { m with jobs := m.jobs.filter fun job => job.number ≠ number }

/-- The background process of a number. -/
def background? (m : Machine) (process : Nat) : Option Background :=
  m.background.find? fun b => b.process = process

/-- The machine with a change of the background process of a number. -/
def withBackground (m : Machine) (process : Nat) (f : Background → Background) : Machine :=
  { m with background := m.background.map fun b => if b.process = process then f b else b }

/-- The machine with nothing but the variables that a program gets, in the order of their groups. -/
def forProgram (m : Machine) : Machine :=
  let given := m.bindings.filter fun v => v.2.exported && v.2.value.isSome
  { m with bindings := match m.dialect with
    | .common => grouped variableGroups given
    | .extended => given.mergeSort fun a b =>
      bucket placeGroups a.1.toList ≤ bucket placeGroups b.1.toList }

/-- The environment that programs get. -/
def environment (m : Machine) : List (String × Octets) :=
  (m.bindings.filterMap fun v => if v.2.exported then v.2.value.map fun x => (v.1, x) else none)

end Machine

namespace Run

/-- Note how a command ended. -/
def status (n : Nat) : Run Unit := modify fun m => { m with status := n }

/-- Note the line of the command that is running. -/
def atLine (line : Nat) : Run Unit :=
  modify fun m => { m with line := match m.dialect with
    | .common => line
    | .extended => ((line : Int) + m.shift).toNat }

/-- Write octets to a descriptor, or tell why that cannot be done. -/
def writeTo (descriptor : Nat) (cs : Octets) : Run (Option SystemError) := do
  let m ← get
  match m.channel? descriptor with
  | some (n, _) =>
    match if cs.isEmpty then none else m.refusal? n with
    | some e => return some e
    | none =>
      modify (·.written n cs)
      return none
  | none => return if cs.isEmpty then none else some (.code 9)

/-- Write octets to the output. -/
def write (cs : Octets) : Run Unit := do
  match ← writeTo 1 cs with
  | some e => modify fun m => { m with unwritten := some e }
  | none => return

/-- Write a line to the error output. -/
def complain (cs : Octets) : Run Unit := do let _ ← writeTo 2 (cs ++ ['\n'])

/-- Write a line to the error output, which says where the script is. -/
def warn (cs : Octets) : Run Unit := do
  let m ← get
  let colon := ": ".toList
  let file := match m.dialect with
    | .common => m.name ++ colon
    | .extended => m.file ++ ": line ".toList
  complain (file ++ (toString m.line).toList ++ colon ++ (match m.builtin with
    | some b => b ++ colon
    | none => []) ++ cs)

/-- End what is running, because something makes no sense. -/
def fail {α : Type} (cs : Octets) (status : Nat := 2) : Run α := do
  warn cs
  throw (.failed status)

/-- All that is still to be read from a descriptor. -/
def readAll (descriptor : Nat := 0) : Run Octets := do
  match (← get).channel? descriptor with
  | some (n, _) =>
    let cs := (← get).unread n
    modify (·.afterEnd n)
    return cs
  | none => return []

/-- Set a variable. One that cannot be set ends the script. -/
def assign (name : String) (value : Octets) : Run Unit := do
  let m ← get
  let before := (m.binding? name).getD { exported := m.has 'a' }
  if before.readOnly then
    match m.dialect with
    | .common => fail (name.toList ++ ": is read only".toList)
    | .extended =>
      warn (name.toList ++ ": readonly variable".toList)
      status 1
      throw .discarded
  else
    modify (·.withVariable name (some { before.withText value with
      exported := before.exported || m.has 'a' }))
    if name = "OPTIND" then modify fun m => { m with bundled := 0 }
    if name = "PATH" then modify fun m => { m with remembered := [] }

/-- What is done in a copy of the script; the disk and the open files stay as it leaves them. -/
def aside {α : Type} (act : Run α) : Run (Except Interrupt α × Machine) := do
  let before ← get
  let (r, after) := (ExceptT.run act).run before
  set { before with
    disk := { after.disk with workingDirectory := before.disk.workingDirectory }
    channels := after.channels
    collected := after.collected
    clock := after.clock
    background := after.background
    jobs := before.withoutWaited.jobs
    struck := if after.level = before.level then after.struck else before.struck
    attributes := after.attributes
    documents := after.documents
    serial := after.serial
    pending := if after.level = before.level then after.pending else before.pending }
  return (r, after)

/-- How something ended that ran in a process of its own. -/
inductive Ended where
  | exited (status : Nat)
  | killed (signal : Nat)
deriving DecidableEq, Repr

/-- Run a program in a process of its own; it may be that it cannot start. -/
def inProcess (act : Run (Except SystemError Nat)) : Run (Except SystemError Ended) := do
  let (r, after) ← aside act
  match r with
  | .ok (.error e) => return .error e
  | .ok (.ok n) | .error (.exit n) | .error (.failed n) | .error (.leave n) =>
    return .ok (.exited (n % 256))
  | .error (.killed signal) => return .ok (.killed signal)
  | .error _ => return .ok (.exited (after.status % 256))

end Run

/-! ## Programs -/

/-- The names of the shell itself. -/
def shellNames : List String := ["sh", "dash", "bash"]

/-- The utilities of the system. -/
def utilityNames : List String :=
  ["[", "basename", "cat", "chmod", "cp", "cut", "dirname", "echo", "egrep", "env", "expr",
    "false", "fgrep", "find", "grep", "head", "hostname", "id", "kill", "ln", "ls", "mkdir",
    "mv", "nl", "nohup", "paste", "printenv", "printf", "pwd", "readlink", "realpath", "rev",
    "rm", "rmdir", "sed", "seq", "sleep", "sort", "sync", "tac", "tail", "tee", "test", "timeout",
    "touch", "tr", "true", "uname", "uniq", "wc", "which", "whoami", "xargs"]

/-- What the files of utilities start with. -/
def utilityMark : Octets := ['\x7f', 'E', 'L', 'F']

/-- The utility that a file is. -/
def utilityOf? (content : Octets) : Option String :=
  if utilityMark.isPrefixOf content then
    some (Octets.toText (content.drop utilityMark.length))
  else none

/-- The directories that a system has. -/
def systemDirectories : List Location :=
  [["dev"], ["etc"], ["home"], ["root"], ["tmp"], ["usr"], ["usr", "bin"], ["usr", "lib"],
    ["usr", "local"], ["usr", "local", "bin"], ["usr", "sbin"], ["var"]]

/-- The disk of a system on which nothing has been done yet. -/
def systemDisk : Disk where
  entries :=
    (systemDirectories.map fun loc => (loc, .directory)) ++
      [(["bin"], .link ⟨"usr/bin"⟩), (["sbin"], .link ⟨"usr/sbin"⟩),
        (["dev", "null"], .nullDevice), (terminalDevice, .nullDevice)] ++
      (zeroDevices.map fun device => (device.1, .nullDevice)) ++
      (utilityNames ++ shellNames).map fun name =>
        (["usr", "bin", name],
          .file (Octets.toBytes (utilityMark ++ Octets.ofText name)) true)

/-- The directories in which programs are looked for, if nothing else is said. -/
def defaultSearch : String := "/usr/local/sbin:/usr/local/bin:/usr/sbin:/usr/bin:/sbin:/bin"

/-- Why an operation failed, without a number. -/
def reasonOf : SystemError → String
  | .code n => SystemError.describe n
  | e => e.message

/-- Why a program cannot be found or run. -/
def whyNotRun (e : SystemError) : String :=
  if e = .notFound || e = .notDirectory then "not found" else reasonOf e

/-- The content of the program that a path leads to, or why it cannot be run. -/
def programAt (d : Disk) (path : Octets) : Except SystemError Octets := do
  let loc ← d.resolve ⟨Octets.toText path⟩
  match d.entryAt? loc with
  | some (.file content true) => return Octets.ofBytes content
  | _ => .error .permissionDenied

namespace Machine

/-- The paths at which a program of some name is looked for. -/
def searchPaths (m : Machine) (name : Octets) : List Octets :=
  if name.contains '/' then [name]
  else (Text.pieces ':' ((m.value? "PATH").getD defaultSearch.toList)).map fun dir =>
    if dir.isEmpty then name else dir ++ ['/'] ++ name

/-- The path of a program of some name, or why there is none. -/
def search (m : Machine) (name : Octets) : Except SystemError Octets :=
  let tried := (m.searchPaths name).map fun path => (path, programAt m.disk path)
  match tried.find? fun t => t.2.toBool with
  | some t => .ok t.1
  | none =>
    let reasons := tried.filterMap fun t => match t.2 with
      | .error e => some e
      | .ok _ => none
    .error ((reasons.reverse.find? fun e => e ≠ .notFound && e ≠ .notDirectory).getD .notFound)

end Machine
end BulkSuppress.Shell
