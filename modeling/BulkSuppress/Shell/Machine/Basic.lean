import BulkSuppress.Process
import BulkSuppress.Shell.Array
import BulkSuppress.Shell.Attributes
import BulkSuppress.Shell.Syntax

/-
  The state of a running script: the disk, the open files and what has been collected from it are
  shared with all that it starts; variables, functions and descriptors are its own. What runs at
  the same time is run one after the other, each part with a clock of its own; what is written in
  between carries its time, so that it can be put in order afterwards. Of the files it sees what is
  in them and what is known of them besides; a file with several names has the same content under
  all of them.
-/

namespace BulkSuppress.Shell

/-- Octets that were written at once. -/
structure Chunk where
  /-- The time of the clock, in microseconds. -/
  time : Nat
  /-- The process that wrote it. -/
  process : Nat
  octets : Octets

/-- What has been collected, last chunk first. -/
abbrev Collection := List Chunk

/-- The chunks of a collection in the order of their times. -/
def Collection.inOrder (c : Collection) : List Chunk :=
  c.reverse.mergeSort fun a b => a.time ≤ b.time

/-- The octets of a collection in the order of their times. -/
def Collection.octets (c : Collection) : Octets :=
  c.inOrder.flatMap (·.octets)

/-- Where an open file leads. -/
inductive Channel where
  /-- To the collection with a number. -/
  | collector (number : Nat)
  /-- From texts with the times when they come, of which these are left. -/
  | supply (rest : List (Nat × Octets))
  /-- To and from the file at a location. -/
  | file (at' : Location) (position : Nat) (appends : Bool)
  /-- Nowhere. -/
  | nowhere
  /-- From a device that gives zeros, which may have room for what is written to it. -/
  | zeros (hasRoom : Bool)

/-- The texts that come from a collection until its writers end at some time. -/
def supplied (c : Collection) (ended : Nat) : List (Nat × Octets) :=
  let grouped := c.inOrder.foldr (fun chunk rest => match rest with
    | (time, cs) :: more =>
      if time = chunk.time then (time, chunk.octets ++ cs) :: more
      else (chunk.time, chunk.octets) :: rest
    | [] => [(chunk.time, chunk.octets)]) []
  if grouped.getLast?.any (ended ≤ ·.1) then grouped else grouped ++ [(ended, [])]

/-! ## Tables of names -/

/-- The number that puts a name into a group. -/
def scattered (name : String) : Nat :=
  match name.toList with
  | [] => 0
  | c :: cs => 17 * c.toNat + total (cs.map Char.toNat)

/-- The entries of a table in the order of their groups, of which there are so many. -/
def grouped {α : Type} (groups : Nat) (table : List (String × α)) : List (String × α) :=
  table.mergeSort fun a b => scattered a.1 % groups ≤ scattered b.1 % groups

/-- The table with another entry of a name, at the place of the former one. -/
def withEntry {α : Type} (name : String) (x : α) (table : List (String × α)) : List (String × α) :=
  if (table.lookup name).isSome then table.map fun e => if e.1 = name then (name, x) else e
  else table ++ [(name, x)]

/-- The number of groups of variables. -/
def variableGroups : Nat := 39

/-! ## State -/

/-- The devices that give zeros, and whether they have room for what is written to them. -/
def zeroDevices : List (Location × Bool) :=
  [(["dev", "full"], false), (["dev", "zero"], true), (["dev", "random"], true),
    (["dev", "urandom"], true)]

/-- The device that stands for a terminal, of which there is none. -/
def terminalDevice : Location := ["dev", "tty"]

/-- The number of zeros that a device gives at most. -/
def zeroLimit : Nat := 1048576

/-- A variable. -/
structure Variable where
  /-- Its value; it may have none. -/
  value : Option Octets := none
  /-- Programs that are started get it. -/
  exported : Bool := false
  readOnly : Bool := false
  /-- Its elements, if it is an array. -/
  elements : Option Elements := none
  /-- It has been given elements, if only none. -/
  isFilled : Bool := false
  /-- What it is set to is calculated first. -/
  calculates : Bool := false
  /-- What becomes of the letters that it is set to. -/
  casing : Option Casing := none
  /-- Its value is the name of another variable, which it stands for. -/
  leads : Bool := false

namespace Variable

/-- The value by which the variable is known, which is the first element of an array. -/
def text? (v : Variable) : Option Octets :=
  match v.elements with
  | some e => e.get? ['0']
  | none => v.value

/-- The variable has a value, or is an array with elements. -/
def isSet (v : Variable) : Bool :=
  match v.elements with
  | some _ => v.isFilled
  | none => v.value.isSome

/-- The variable with another value. -/
def withText (v : Variable) (cs : Octets) : Variable :=
  match v.elements with
  | some e => { v with elements := some (e.insert ['0'] cs), isFilled := true }
  | none => { v with value := some cs }

end Variable

/-- What puts an end to what is running. -/
inductive Interrupt where
  /-- The script ends. -/
  | exit (status : Nat)
  /-- The script ends because something in it makes no sense. -/
  | failed (status : Nat)
  /-- The line of the script that is running ends because something in it makes no sense. -/
  | discarded
  /-- A signal ends the script. -/
  | killed (signal : Nat)
  /-- The function ends. -/
  | leave (status : Nat)
  /-- So many loops end. -/
  | break_ (loops : Nat)
  /-- So many loops end, but the last one goes on with its next round. -/
  | continue_ (loops : Nat)
deriving DecidableEq, Repr

/-- A process that runs in the background. -/
structure Background where
  process : Nat
  status : Nat
  /-- A signal ended it. -/
  signalled : Bool := false
  /-- When it ends. -/
  ended : Nat
  /-- It has been waited for. -/
  reaped : Bool := false

/-- A process in the background as the shell that started it lists it. -/
structure Job where
  number : Nat
  process : Nat
  /-- It has been waited for. -/
  waited : Bool := false

/-- A call of a function, or of a file that runs as a part of the script. -/
structure Frame where
  name : Octets
  /-- The line from which it was called. -/
  line : Nat
  /-- The file in which it is defined. -/
  source : Octets
  isFile : Bool := false

/-- The state of a running script. -/
structure Machine where
  disk : Disk
  /-- The language that the script speaks. -/
  dialect : Dialect := .common
  /-- The open files, by number. -/
  channels : List Channel
  /-- What has been collected, by number. -/
  collected : List Collection
  /-- The time that has passed, in microseconds. -/
  clock : Nat := 0
  /-- The number of the process. -/
  process : Nat := 4242
  /-- The number of shells around this one that are programs of their own. -/
  level : Nat := 0
  /-- Why something could not be written to the output. -/
  unwritten : Option SystemError := none
  /-- The open file that a descriptor leads to. -/
  descriptors : List (Nat × Nat)
  /-- The name of the script. -/
  name : Octets
  arguments : List Octets := []
  bindings : List (String × Variable) := []
  functions : List (String × Command) := []
  /-- The texts that words are replaced by while a script is read. -/
  aliases : List (String × Octets) := []
  /-- The programs that have been found, with their paths; whether these are sure is told too. -/
  remembered : List (String × Octets × Bool) := []
  /-- How often these have been run. -/
  hits : List (String × Nat) := []
  /-- The path of the working directory, as it was reached. -/
  here : Octets := ['/']
  /-- The rights that new files do not get. -/
  mask : Nat := 18
  /-- What is known of files apart from what is in them. -/
  attributes : Attributes := {}
  /-- The texts of here-documents, by number. -/
  documents : List (Nat × Word) := []
  /-- The number of here-documents so far. -/
  serial : Nat := 0
  /-- How the last command ended. -/
  status : Nat := 0
  /-- How the last command inside a word ended. -/
  innerStatus : Nat := 0
  /-- The line of the command that is running. -/
  line : Nat := 1
  /-- The letters of the options that are set. -/
  options : List Char := []
  /-- What to do when something happens. -/
  traps : List (String × Octets) := []
  /-- What the script itself does when something happens, if this is a copy of it. -/
  outerTraps : Option (List (String × Octets)) := none
  /-- The number of loops around the command that is running. -/
  loops : Nat := 0
  /-- The values that variables get back when functions end, innermost function first. -/
  saved : List (List (String × Option Variable)) := []
  /-- The builtin that is running. -/
  builtin : Option Octets := none
  /-- The name by which the program that is running was called. -/
  called : Octets := []
  /-- A condition is being tested, so that failing is no reason to end. -/
  tested : Bool := false
  /-- The place in bundled options that are being read one at a time. -/
  bundled : Nat := 0
  /-- The processes in the background, last first. -/
  background : List Background := []
  /-- Those of them that the shell lists, last first. -/
  jobs : List Job := []
  /-- The last process that was started in the background. -/
  launched : Option Nat := none
  /-- The signals that came and for which there is still something to do. -/
  pending : List Nat := []
  /-- The signal that ends the script as soon as it goes on. -/
  struck : Option Nat := none
  /-- The number of function calls around the command that is running. -/
  calls : Nat := 0
  /-- The names of the switches that are on. -/
  switches : List String := []
  /-- How the commands of the last pipeline ended. -/
  pipeline : List Nat := [0]
  /-- The calls around the command that is running, innermost first. -/
  frames : List Frame := []
  /-- The files in which functions are defined. -/
  origins : List (String × Octets) := []
  /-- The directories to come back to, last first. -/
  directories : List Octets := []
  /-- The number from which the next random one comes. -/
  seed : Nat := 1
  /-- The number of copies of the shell around this one. -/
  copies : Nat := 0
  /-- How far the lines of the commands that are running are off from those of the script. -/
  shift : Int := 0
  /-- The last argument of the last command. -/
  lastArgument : Octets := []
  /-- The number of texts around the command that is running that are run as scripts. -/
  nesting : Nat := 0

/-- Running, until something puts an end to it. -/
abbrev Run := ExceptT Interrupt (StateM Machine)

namespace Machine

/-- The file that is running as a part of the script, or the script. -/
def file (m : Machine) : Octets := (m.frames.head?.map (·.source)).getD m.name

/-- The number that a script knows itself by. -/
def processNumber : Nat := 4242

/-- The letters and the names of the options. -/
def optionNames : List (Char × String) :=
  [('e', "errexit"), ('f', "noglob"), ('I', "ignoreeof"), ('i', "interactive"), ('m', "monitor"),
    ('n', "noexec"), ('s', "stdin"), ('x', "xtrace"), ('v', "verbose"), ('V', "vi"),
    ('E', "emacs"), ('C', "noclobber"), ('a', "allexport"), ('b', "notify"), ('u', "nounset"),
    ('p', "privileged")]

/-- The option is set. -/
def has (m : Machine) (option : Char) : Bool := m.options.contains option

/-- The variable of a name. -/
def binding? (m : Machine) (name : String) : Option Variable := m.bindings.lookup name

/-- The machine with another variable of a name. -/
def withVariable (m : Machine) (name : String) (v : Option Variable) : Machine :=
  match v with
  | none => { m with bindings := m.bindings.filter fun x => x.1 ≠ name }
  | some v => { m with bindings := withEntry name v m.bindings }

/-- The value of a variable. -/
def value? (m : Machine) (name : String) : Option Octets := (m.binding? name).bind (·.text?)

/-- The octets that part fields from each other. -/
def separators (m : Machine) : Octets := (m.value? "IFS").getD [' ', '\t', '\n']

/-- The value of a parameter; some signs stand for one that always has a value. -/
def parameter? (m : Machine) (name : String) : Option Octets :=
  match name with
  | "#" => some (toString m.arguments.length).toList
  | "*" | "@" =>
    if m.arguments.isEmpty then none
    else some (Octets.join (m.separators.take 1) m.arguments)
  | "?" => some (toString m.status).toList
  | "$" => some (toString processNumber).toList
  | "!" => m.launched.map fun process => (toString process).toList
  | "-" => some ((optionNames.map (·.1)).reverse.filter m.options.contains)
  | "0" => some m.name
  | _ =>
    match name.toNat? with
    | some n => m.arguments[n - 1]?
    | none => m.value? name

/-- The open file that a descriptor leads to. -/
def channel? (m : Machine) (descriptor : Nat) : Option (Nat × Channel) :=
  (m.descriptors.lookup descriptor).bind fun n => m.channels[n]?.map fun c => (n, c)

/-- The machine with a descriptor that leads to an open file, or to none. -/
def withDescriptor (m : Machine) (descriptor : Nat) (file : Option Nat) : Machine :=
  let others := m.descriptors.filter fun d => d.1 ≠ descriptor
  { m with descriptors := (file.map fun n => (descriptor, n)).toList ++ others }

/-- The machine with a further open file, to which a descriptor leads. -/
def opening (m : Machine) (descriptor : Nat) (c : Channel) : Machine :=
  { m with channels := m.channels ++ [c] }.withDescriptor descriptor (some m.channels.length)

/-! ## Files -/

/-- The content of the file at a location. -/
def contentAt (m : Machine) (loc : Location) : Octets :=
  match m.disk.entryAt? loc with
  | some (.file content _) => Octets.ofBytes content
  | _ => []

/-- The rights that something of a kind has as a rule. -/
def usualMode : Entry → Nat
  | .file _ executable => if executable then 493 else 420
  | .directory => 493
  | .link _ => 511
  | .nullDevice => 438

/-- The rights of what is at a location. -/
def modeAt (m : Machine) (loc : Location) : Nat :=
  match m.attributes.modes.lookup loc with
  | some mode => mode
  | none => ((m.disk.entryAt? loc).map usualMode).getD 0

/-- The machine with rights for what is at a location, under all its names. -/
def withMode (m : Machine) (loc : Location) (mode : Nat) : Machine :=
  (m.attributes.namesOf loc).foldl (fun m loc =>
    let others := m.attributes.modes.filter fun x => x.1 ≠ loc
    let disk := m.disk.setExecutable loc (mode &&& 73 ≠ 0)
    let usual := ((disk.entryAt? loc).map usualMode).getD 0
    let modes := if mode = usual then others else (loc, mode) :: others
    { m with disk, attributes := { m.attributes with modes } }) m

/-! ## Times -/

/-- The time at which a system starts, in nanoseconds from the start of 1970 on. -/
def startOfTime : Int := 1767225600000000000

/-- The time of the clock. -/
def now (m : Machine) : Int := startOfTime + m.clock * 1000

/-- The times of what was there before the system started, which is a second earlier. -/
def usualStamp : Stamp := ⟨startOfTime - 1000000000, startOfTime - 1000000000⟩

/-- The times of what is at a location. -/
def stampAt (m : Machine) (loc : Location) : Stamp :=
  (m.attributes.stamps.lookup loc).getD usualStamp

/-- The machine with times for what is at a location, under all its names. -/
def withStamp (m : Machine) (loc : Location) (s : Stamp) : Machine :=
  (m.attributes.namesOf loc).foldl (fun m loc =>
    let others := m.attributes.stamps.filter fun x => x.1 ≠ loc
    { m with attributes := { m.attributes with stamps := (loc, s) :: others } }) m

/-- The machine with the present as the time of the last change of something. -/
def changed (m : Machine) (loc : Location) : Machine :=
  m.withStamp loc { m.stampAt loc with change := m.now }

/-! ## Changing the disk -/

/-- The machine with other content in a file, under all its names. -/
def withContent (m : Machine) (loc : Location) (content : ByteArray) : Machine :=
  let disk := (m.attributes.namesOf loc).foldl (fun d loc => d.setContent loc content) m.disk
  { m with disk }.changed loc

/-- The machine with something new at a location, which has rights as far as these are not kept back. -/
def withNew (m : Machine) (loc : Location) (e : Entry) (mode : Nat) : Machine :=
  let attributes := m.attributes.without (· = loc)
  let m := { m with disk := m.disk.insert loc e, attributes }
  let m := (m.withStamp loc ⟨m.now, m.now⟩).changed loc.dropLast
  if e matches .link _ then m else m.withMode loc (mode ^^^ (mode &&& m.mask))

/-- The machine without what is at a location and below it. -/
def without (m : Machine) (loc : Location) : Machine :=
  { m with
    disk := m.disk.erase loc
    attributes := m.attributes.without loc.isPrefixOf }.changed loc.dropLast

/-- The location of a file that is opened for writing, and the machine, which has it. -/
def openFile (m : Machine) (p : Path) : Except SystemError (Location × Machine) := do
  let (loc, _) ← m.disk.openFile p
  if (m.disk.entryAt? loc).isSome then return (loc, m)
  else return (loc, m.withNew loc (.file .empty false) 438)

/-- The machine with a file of the content, made or written anew. -/
def writeFile (m : Machine) (p : Path) (content : ByteArray) : Except SystemError Machine := do
  let (loc, m) ← m.openFile p
  return m.withContent loc content

/-- The machine with a new directory, which has rights as far as these are not kept back. -/
def makeDirectory (m : Machine) (p : Path) (mode : Nat := 511) : Except SystemError Machine := do
  return m.withNew (← m.disk.locateNew p) .directory mode

/-- The machine with a new link. -/
def makeLink (m : Machine) (p target : Path) : Except SystemError Machine := do
  return m.withNew (← m.disk.locateNewFile p) (.link target) 511

/-- The machine without a file or link. -/
def removeFile (m : Machine) (p : Path) : Except SystemError Machine := do
  let loc ← m.disk.locateSelf p
  if m.disk.isDirectoryAt loc then .error .isDirectory else return m.without loc

/-- The machine without an empty directory. -/
def removeDirectory (m : Machine) (p : Path) : Except SystemError Machine := do
  let _ ← m.disk.removeDirectory p
  return m.without (← m.disk.locateSelf p)

/-- The machine with something at another place, where it replaces what is there. -/
def rename (m : Machine) (source target : Path) : Except SystemError Machine := do
  let disk ← m.disk.rename source target
  let old ← m.disk.locateSelf source
  let new ← m.disk.locate { mayBeNew := true, staysOnLink := true } (Disk.unslashed target)
  if (m.attributes.namesOf old).contains new then return m
  else
    let m := { m with disk, attributes := m.attributes.moved old new }
    return (m.changed old.dropLast).changed new.dropLast

/-- The machine with another name for a file. -/
def linkFile (m : Machine) (loc : Location) (p : Path) : Except SystemError Machine := do
  let place ← m.disk.locateNewFile p
  match m.disk.entryAt? loc with
  | some .directory => .error (.code 1)
  | some e =>
    let m := { m with disk := m.disk.insert place e }.changed place.dropLast
    return { m with attributes := m.attributes.joined loc place }
  | none => .error .notFound

/-! ## Opening -/

/-- What an open file at a location is, or why it cannot be opened. -/
def channelAt (d : Disk) (loc : Location) (appends : Bool) : Except SystemError Channel :=
  match d.entryAt? loc with
  | some .nullDevice =>
    if loc = terminalDevice then .error (.code 6)
    else .ok ((zeroDevices.lookup loc).elim .nowhere .zeros)
  | _ => .ok (.file loc 0 appends)

/-- The octets of the file that a path leads to. -/
def readFile (m : Machine) (file : Octets) : Except SystemError Octets := do
  let (loc, bytes) ← m.disk.readFile ⟨Octets.toText file⟩
  match ← channelAt m.disk loc false with
  | .zeros _ => return List.replicate zeroLimit '\x00'
  | _ => return Octets.ofBytes bytes

/-- Content with octets written at a position. -/
def overwritten (content : Octets) (position : Nat) (cs : Octets) : Octets :=
  let gap := List.replicate (position - content.length) '\x00'
  content.take position ++ gap ++ cs ++ content.drop (position + cs.length)

end Machine
end BulkSuppress.Shell
