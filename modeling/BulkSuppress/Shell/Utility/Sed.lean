import BulkSuppress.Shell.Utility.Output
import BulkSuppress.Shell.Utility.Sed.Edit

/-
  Editing lines by a script. Each line of the files becomes the pattern space in turn, on which the
  commands that are addressed work. Files are opened when their first line is needed, or when it
  matters whether the present line is the last one.
-/

namespace BulkSuppress.Shell.Utility.Sed

/-! ## State -/

/-- How far a range of lines has come. -/
inductive RangeState where
  /-- It ends with a line, even if that is passed over. -/
  | upTo (line : Nat)
  /-- It ends with the first line that comes here or behind. -/
  | reaching (line : Nat)
  /-- It ends with the first line that its end is about. -/
  | searching
  /-- It has ended and does not start again. -/
  | over
deriving DecidableEq

/-- Where lines are written to. -/
inductive Target where
  /-- The output, or the file that is edited in its place. -/
  | main
  | output
  | errors
  | file (name : Octets)
deriving DecidableEq

/-- What is written behind the present line. -/
inductive Queued where
  | text (cs : Octets)
  | file (name : Octets)

/-- How lines are edited. -/
structure Mode where
  quiet : Bool := false
  /-- Each file has its own lines. -/
  separate : Bool := false
  /-- Files are edited in their places. -/
  inPlace : Bool := false
  /-- What the name of a copy of the file is made of; nothing is copied if it is empty. -/
  copyName : Octets := []
  followsLinks : Bool := false
  /-- Nothing is read from the input that is not needed. -/
  unbuffered : Bool := false
  mark : Char := '\n'
  spelledLength : Nat := spelledLength

/-- The state of an edit. -/
structure Edit where
  mode : Mode
  space : Line := {}
  hold : Line := {}
  /-- The lines of the present file that are still to be read. -/
  lines : List Line := []
  /-- The present file. -/
  file : Octets := ['-']
  /-- The present file is being edited in its place. -/
  editing : Bool := false
  /-- The files that are still to be opened. -/
  files : List Octets
  number : Nat := 0
  /-- What has been written to the output, last first. -/
  out : List Octets := []
  /-- What the present file is to hold, last first. -/
  edited : List Octets := []
  /-- The files to write to, with what has been written to them, last first. -/
  targets : List (Octets × List Octets) := []
  /-- Where what has been written last lacks its line end. -/
  unfinished : List Target := []
  queue : List Queued := []
  /-- A substitution has been made in the present line. -/
  changed : Bool := false
  /-- What was looked for last. -/
  lastSought : Option (Regex × Bool × Bool) := none
  /-- The ranges that have started, by the place of their command. -/
  ranges : List (Nat × RangeState) := []
  /-- The files to take lines from, with all of their lines. -/
  sources : List (Octets × List Octets) := []
  /-- The lines that are left of these files. -/
  unread : List (Octets × List Octets) := []
  status : Nat := 0

/-- Why editing ends before its time. -/
structure Breakdown where
  why : Octets
  status : Nat

/-- Editing. -/
abbrev Editor := ExceptT Breakdown (StateT Edit Run)

/-- Go on with a state. -/
def keep (e : Edit) : Editor Unit := set e

/-- Something that the utility does. -/
def outside {α : Type} (act : Run α) : Editor α := ExceptT.lift (StateT.lift act)

/-! ## Writing -/

/-- Write octets. -/
def emit (t : Target) (cs : Octets) : Editor Unit := do
  match t with
  | .main =>
    modify fun e => if e.mode.inPlace then { e with edited := cs :: e.edited }
      else { e with out := cs :: e.out }
  | .output => modify fun e => { e with out := cs :: e.out }
  | .errors => let _ ← outside (Run.writeTo 2 cs)
  | .file name =>
    modify fun e => { e with
      targets := e.targets.map fun t => if t.1 = name then (name, cs :: t.2) else t }

/-- Give the line that was written last the end that it lacks. -/
def finish (t : Target) : Editor Unit := do
  let e ← get
  if e.unfinished.contains t then
    keep { e with unfinished := e.unfinished.filter (· ≠ t) }
    emit t [e.mode.mark]

/-- Write octets on a line of their own. -/
def write (t : Target) (cs : Octets) : Editor Unit := do
  finish t
  emit t cs

/-- Write a line, with an end if it has one. -/
def writeLine (t : Target) (l : Line) : Editor Unit := do
  finish t
  let e ← get
  emit t (if l.ended then l.text ++ [e.mode.mark] else l.text)
  if !l.ended then modify fun e => { e with unfinished := t :: e.unfinished }

/-- Where a name of a file to write to leads. -/
def targetOf (file : Octets) : Target :=
  if file = "/dev/stdout".toList then .output
  else if file = "/dev/stderr".toList then .errors
  else .file file

/-- Write what was to be written behind the present line. -/
def flushQueue : Editor Unit := do
  let e ← get
  if e.queue.isEmpty then return
  keep { e with queue := [] }
  finish .main
  for q in e.queue do
    match q with
    | .text cs => emit .main cs
    | .file name =>
      let content ← outside (if name = "/dev/stdin".toList then contentOf name
        else do return (← get).readFile name)
      match content with
      | .ok cs => emit .main cs
      | .error _ => pure ()

/-- Write the pattern space as a line, unless that is not wanted. -/
def printSpace : Editor Unit := do
  let e ← get
  if !e.mode.quiet then writeLine .main e.space

/-! ## Files -/

/-- The name of the copy of a file: each star stands for its last name, one stands in front. -/
def copyOf (copyName file : Octets) : Octets :=
  let last := (file.reverse.takeWhile (· ≠ '/')).reverse
  let dir := file.take (file.length - last.length)
  let base := if copyName.contains '*' then
      copyName.flatMap fun c => if c = '*' then last else [c]
    else last ++ copyName
  if base.contains '/' then base else dir ++ base

/-- Put what has been edited in the place of the present file. -/
def replaceFile : Editor Unit := do
  let e ← get
  if !e.editing then return
  keep { e with
    editing := false, edited := [], unfinished := e.unfinished.filter (· ≠ .main) }
  let text := Octets.toBytes e.edited.reverse.flatten
  let m ← outside get
  let path : Path := ⟨Octets.toText e.file⟩
  let mode := (m.disk.resolve path).toOption.map m.modeAt
  let copied : Except SystemError Machine :=
    if e.mode.copyName.isEmpty then
      .ok (if (m.disk.selfAt? path) matches some (.file ..) then (m.removeFile path).toOption.getD m
        else m)
    else m.rename path ⟨Octets.toText (copyOf e.mode.copyName e.file)⟩
  match copied with
  | .error why =>
    throw ⟨"cannot rename ".toList ++ e.file ++ ": ".toList ++ (reasonOf why).toList, 4⟩
  | .ok m =>
    let freed := if !e.mode.followsLinks && (m.disk.selfAt? path matches some (.link _))
      then (m.removeFile path).toOption.getD m else m
    match freed.writeFile path text with
    | .error why =>
      throw ⟨"couldn't open file ".toList ++ e.file ++ ": ".toList ++ (reasonOf why).toList, 4⟩
    | .ok m =>
      outside (set (match m.disk.resolve path, mode with
        | .ok loc, some mode => m.withMode loc mode
        | _, _ => m))

/-- The octets of a file to be edited. -/
def contentOfInput (mode : Mode) (file : Octets) : Run (Except SystemError Octets) := do
  if mode.inPlace && file = ['-'] then return (← get).readFile file
  else contentOf file

/-- Open the next file. A directory only matters to those who read its lines. -/
def openNext (file : Octets) (reads : Bool) : Editor Unit := do
  replaceFile
  let mode := (← get).mode
  match ← outside (contentOfInput mode file) with
  | .ok cs =>
    modify fun e => { e with file, lines := linesOf mode.mark cs, editing := mode.inPlace }
  | .error .isDirectory =>
    if mode.inPlace then
      throw ⟨"couldn't edit ".toList ++ file ++ ": not a regular file".toList, 4⟩
    else if reads then
      throw ⟨"read error on ".toList ++ file ++ ": ".toList ++ (reasonOf .isDirectory).toList, 4⟩
  | .error why =>
    outside (complain "sed" ("can't read ".toList ++ file ++ ": ".toList ++ (reasonOf why).toList))
    modify fun e => { e with status := 2 }

/-- Open files until there is a line to read. -/
def openUntilLine (reads : Bool) : List Octets → Editor Unit
  | [] => return
  | file :: files => do
    if !(← get).lines.isEmpty then return
    modify fun e => { e with files }
    if reads && (← get).mode.separate then
      modify fun e => { e with number := 0, hold := {}, ranges := [], unread := e.sources }
    openNext file reads
    openUntilLine reads files

/-- The present line is the last one. -/
def isLast : Editor Bool := do
  let e ← get
  if !e.lines.isEmpty then return false
  else if e.mode.separate then return true
  else
    openUntilLine false e.files
    return (← get).lines.isEmpty

/-- Take the next line into the pattern space, if there is one. -/
def nextLine (appended : Bool) : Editor Bool := do
  flushQueue
  openUntilLine true (← get).files
  let e ← get
  match e.lines with
  | [] => return false
  | l :: rest =>
    keep { e with
      lines := rest
      number := e.number + 1
      changed := false
      space := if appended then e.space.append e.mode.mark l else l }
    return true

/-! ## Addresses -/

/-- What is looked for; what was looked for last counts if there is nothing else. -/
def looked (s : Sought) : Editor (Regex × Bool × Bool) := do
  match s.regex with
  | some r =>
    let found := (r, s.foldsCase, s.byLine)
    modify fun e => { e with lastSought := some found }
    return found
  | none =>
    match (← get).lastSought with
    | some found => return found
    | none => throw ⟨"no previous regular expression".toList, 1⟩

/-- The present line is what the address says. -/
def Address.holds (a : Address) : Editor Bool := do
  match a with
  | .line n => return (← get).number = n
  | .every first step =>
    let number := (← get).number
    return first ≤ number && (number - first) % step = 0
  | .last => isLast
  | .matching s =>
    let (r, foldsCase, byLine) ← looked s
    return Regex.occurs { octets := (← get).space.text.toArray, foldsCase, byLine } r

/-- Note how far the range of the command at a place has come. -/
def noteRange (place : Nat) (p : Option RangeState) : Editor Unit :=
  modify fun e => { e with
    ranges := (p.map fun p => (place, p)).toList ++ e.ranges.filter fun r => r.1 ≠ place }

/-- The range from an address ends; one from a line number does not start again. -/
def endRange (place : Nat) (a : Address) : Editor Unit :=
  noteRange place (match a with
    | .line _ => some .over
    | _ => none)

/-- A range from an address starts in the present line. One from a line number may start late. -/
def startsAt (a : Address) (last : RangeEnd) : Editor Bool := do
  let number := (← get).number
  match a, last with
  | .line n, .at' (.line m) => return number = n || (n ≤ number && number ≤ m)
  | .line n, _ => return n ≤ number
  | a, _ => a.holds

/-- A range has started in the present line. -/
def startRange (place : Nat) (a : Address) (last : RangeEnd) : Editor Unit := do
  let number := (← get).number
  match last with
  | .further n =>
    if n = 0 then endRange place a else noteRange place (some (.reaching (number + n)))
  | .multiple n =>
    if n = 0 then endRange place a
    else noteRange place (some (.reaching ((number / n + 1) * n)))
  | .at' (.line m) => if number < m then noteRange place (some (.upTo m))
  | .at' b =>
    match a with
    | .line 0 => if ← b.holds then endRange place a else noteRange place (some .searching)
    | _ => noteRange place (some .searching)

/-- The present line is in the range of the command at a place. -/
def inRange (place : Nat) (a : Address) (last : RangeEnd) : Editor Bool := do
  let e ← get
  match e.ranges.lookup place, last with
  | some (.upTo n), _ =>
    if n ≤ e.number then endRange place a
    return e.number ≤ n
  | some (.reaching n), _ =>
    if n ≤ e.number then endRange place a
    return true
  | some .searching, .at' b =>
    if ← b.holds then endRange place a
    return true
  | some .searching, _ => return true
  | some .over, _ => return false
  | none, last =>
    if ← startsAt a last then
      startRange place a last
      return true
    else return false

/-- The command at a place is for the present line. -/
def Step.applies (s : Step) (place : Nat) : Editor Bool := do
  let plain ← match s.first, s.last with
    | none, _ => pure true
    | some a, none => a.holds
    | some a, some last => inRange place a last
  return plain != s.negated

/-! ## Commands -/

section

variable (call : Caller)

/-- The pattern space is run as a command, and what that writes takes its place. -/
def executeSpace : Editor Unit := do
  let e ← get
  let cs ← outside (outputOf call e.space.text)
  let text := if cs.getLast? = some e.mode.mark then cs.dropLast else cs
  modify fun e => { e with space := { e.space with text } }

/-- Make a substitution in the pattern space. -/
def substitute (s : Substitution) : Editor Unit := do
  let (r, foldsCase, byLine) ← looked s.sought
  let e ← get
  let subject : Regex.Subject := { octets := e.space.text.toArray, foldsCase, byLine }
  let bound := 2 * e.space.text.length + 4
  let (text, changed) := substituted subject r s.parts s.all bound s.nth 0 none
  if changed then
    keep { e with space := { e.space with text }, changed := true }
    if s.printsFirst then writeLine .main (← get).space
    if s.executes then executeSpace call
    if s.prints then writeLine .main (← get).space
    match s.file with
    | some file => writeLine (targetOf file) (← get).space
    | none => return

/-- The first line of the pattern space. -/
def firstLine (mark : Char) (l : Line) : Line :=
  if l.text.contains mark then ⟨l.text.takeWhile (· ≠ mark), true⟩ else l

/-- Do the work of a command that goes on with the next one. -/
def perform (w : Work) : Editor Unit := do
  let e ← get
  let mark := e.mode.mark
  match w with
  | .substitute s => substitute call s
  | .translate table =>
    let text := e.space.text.map fun c => (table.lookup c).getD c
    keep { e with space := { e.space with text } }
  | .print => writeLine .main e.space
  | .printFirst => writeLine .main (firstLine mark e.space)
  | .number => write .main ((toString e.number).toList ++ [mark])
  | .fileName => write .main (e.file ++ [mark])
  | .put .append text => keep { e with queue := e.queue ++ [.text text] }
  | .put .insert text => write .main text
  | .put .execute text =>
    if text.isEmpty then executeSpace call
    else
      let cs ← outside (outputOf call text)
      write .main cs
  | .appendFile file => keep { e with queue := e.queue ++ [.file file] }
  | .appendLine file =>
    match e.unread.lookup file with
    | some (l :: rest) =>
      keep { e with
        queue := e.queue ++ [.text l]
        unread := e.unread.map fun u => if u.1 = file then (file, rest) else u }
    | _ => return
  | .writeTo file isFirst =>
    writeLine (targetOf file) (if isFirst then firstLine mark e.space else e.space)
  | .spell length =>
    write .main (spelledLines mark (length.getD e.mode.spelledLength) e.space.text)
  | .clear => keep { e with space := { e.space with text := [] } }
  | .holdCopy => keep { e with hold := e.space }
  | .holdAppend => keep { e with hold := e.hold.append mark e.space }
  | .takeCopy => keep { e with space := e.hold }
  | .takeAppend => keep { e with space := e.space.append mark e.hold }
  | .exchange => keep { e with space := e.hold, hold := e.space }
  | _ => return

/-- What comes behind a run through the commands. -/
inductive Flow where
  | endOfScript
  /-- The pattern space is not written. -/
  | deleted
  /-- The first line is deleted, and the commands start anew with the rest. -/
  | again
  /-- The commands ask for the end. -/
  | quit (prints : Bool)
deriving DecidableEq

/-- Run the commands from a place on. -/
def runFrom (script : List Step) : Nat → Nat → Editor Flow
  | 0, _ => return .endOfScript
  | n + 1, place => do
    match script[place]? with
    | none => return .endOfScript
    | some step =>
      let go := runFrom script n
      match ← step.applies place, step.work with
      | false, .block length => go (place + 1 + length)
      | false, _ => go (place + 1)
      | true, w =>
        let e ← get
        let mark := e.mode.mark
        match w with
        | .delete => return .deleted
        | .deleteFirst =>
          if e.space.text.contains mark then
            let text := (e.space.text.dropWhile (· ≠ mark)).drop 1
            keep { e with space := { e.space with text } }
            return .again
          else return .deleted
        | .next =>
          if ← isLast then return .endOfScript
          else
            printSpace
            if ← nextLine false then go (place + 1) else return .deleted
        | .nextAppended =>
          if ← isLast then return .endOfScript
          else
            let _ ← nextLine true
            go (place + 1)
        | .quit status prints =>
          if status ≠ 0 then modify fun e => { e with status }
          return .quit prints
        | .put .change text =>
          let isInside := (e.ranges.lookup place).any (· ≠ .over)
          if !isInside then write .main text
          return .deleted
        | .branch name => go (placeOf script name)
        | .branchIfChanged name =>
          keep { e with changed := false }
          go (if e.changed then placeOf script name else place + 1)
        | .branchUnlessChanged name =>
          keep { e with changed := false }
          go (if e.changed then place + 1 else placeOf script name)
        | w =>
          perform call w
          go (place + 1)

/-- The number of commands that are run for one line before the script is given up. -/
def stepLimit : Nat := 100000

/-- Run the commands for each line that is left. -/
def edit (script : List Step) : Nat → (fresh : Bool) → Editor Unit
  | 0, _ => return
  | n + 1, fresh => do
    if fresh then
      if !(← nextLine false) then return
    match ← runFrom call script stepLimit 0 with
    | .endOfScript =>
      printSpace
      edit script n true
    | .deleted => edit script n true
    | .again => edit script n false
    | .quit prints =>
      if prints then
        printSpace
        finish .main
        flushQueue
      giveBack
where
  /-- What has not been needed of the input can be read by others. -/
  giveBack : Editor Unit := do
    let e ← get
    if e.file = ['-'] then
      let rest := e.lines.flatMap fun l => if l.ended then l.text ++ [e.mode.mark] else l.text
      outside (modify fun m => match m.channel? 0 with
        | some (n, _) => m.givenBack n rest e.mode.unbuffered
        | none => m)

end

/-! ## Runs -/

/-- Open the files to write to, so that they are empty. -/
def openTargets (files : List Octets) : Run (Option Octets) := do
  for file in files do
    if targetOf file = .file file then
      match (← get).writeFile ⟨Octets.toText file⟩ .empty with
      | .ok m => set m
      | .error why =>
        return some ("couldn't open file ".toList ++ file ++ ": ".toList ++ (reasonOf why).toList)
  return none

/-- Write to files what is to be written there. -/
def flushTargets (targets : List (Octets × List Octets)) : Run Unit := do
  for (file, out) in targets do
    if targetOf file = .file file then
      let bytes := Octets.toBytes out.reverse.flatten
      match (← get).writeFile ⟨Octets.toText file⟩ bytes with
      | .ok m => set m
      | .error _ => pure ()

/-- The number of times that commands are started anew before the edit is given up. -/
def roundLimit : Nat := 1000000

/-- Edit files by a script, and tell how that ended. -/
def editFiles (call : Caller) (mode : Mode) (script : List Step) (place : Octets)
    (files : List Octets) : Run Nat := do
  let written := (script.filterMap Step.writtenFile?).eraseDups
  match ← openTargets written with
  | some why =>
    complain "sed" why
    return 4
  | none =>
    let mut sources : List (Octets × List Octets) := []
    for file in (script.filterMap Step.lineSource?).eraseDups do
      match ← contentOf file with
      | .ok cs =>
        let lines := (linesOf mode.mark cs).map fun l => if l.ended then l.text ++ [mode.mark] else l.text
        sources := sources ++ [(file, lines)]
      | .error _ => pure ()
    let start : Edit :=
      { mode, files, sources, unread := sources, targets := written.map fun file => (file, []) }
    let all : Editor Unit := do
      edit call script roundLimit true
      replaceFile
    let (r, e) ← (ExceptT.run all).run start
    let status ← match r with
      | .ok () => pure e.status
      | .error b => do
        complain "sed" (if b.status = 1 then place ++ b.why else b.why)
        pure b.status
    Run.write e.out.reverse.flatten
    flushTargets e.targets
    return status

/-- The pieces of the script that options give; nothing comes back if one cannot be read. -/
def piecesOf (choices : List Choice) : Run (Option (List Piece)) := do
  let mut pieces : List Piece := []
  let mut count := 0
  for c in choices do
    if c.letter = 'e' then
      count := count + 1
      pieces := pieces ++ [⟨.expression count, c.value⟩]
    else if c.letter = 'f' then
      match ← contentOf c.value with
      | .ok cs => pieces := pieces ++ [⟨.file c.value, cs⟩]
      | .error .isDirectory => pieces := pieces ++ [⟨.file c.value, []⟩]
      | .error e =>
        complain "sed" ("couldn't open file ".toList ++ c.value ++ ": ".toList ++
          (reasonOf e).toList)
        return none
  return some pieces

/-- Where a script ends, as messages name it. -/
def placeBehind (pieces : List Piece) : Octets :=
  match pieces.getLast? with
  | none => []
  | some piece =>
    match piece.origin with
    | .expression number =>
      ("-e expression #" ++ toString number ++ ", char 0: ").toList
    | .file name =>
      "file ".toList ++ name ++ (" line " ++ toString (piece.text.count '\n' + 1) ++ ": ").toList

/-- The lines that say how the utility is used. -/
def usageLines : List String :=
  ["Usage: sed [OPTION]... \x7bscript-only-if-no-other-script\x7d [input-file]...",
    "",
    "  -n, --quiet, --silent",
    "                 suppress automatic printing of pattern space",
    "      --debug",
    "                 annotate program execution",
    "  -e script, --expression=script",
    "                 add the script to the commands to be executed",
    "  -f script-file, --file=script-file",
    "                 add the contents of script-file to the commands to be executed",
    "  --follow-symlinks",
    "                 follow symlinks when processing in place",
    "  -i[SUFFIX], --in-place[=SUFFIX]",
    "                 edit files in place (makes backup if SUFFIX supplied)",
    "  -l N, --line-length=N",
    "                 specify the desired line-wrap length for the \x60l' command",
    "  --posix",
    "                 disable all GNU extensions.",
    "  -E, -r, --regexp-extended",
    "                 use extended regular expressions in the script",
    "                 (for portability use POSIX -E).",
    "  -s, --separate",
    "                 consider files as separate rather than as a single,",
    "                 continuous long stream.",
    "      --sandbox",
    "                 operate in sandbox mode (disable e/r/w commands).",
    "  -u, --unbuffered",
    "                 load minimal amounts of data from the input files and flush",
    "                 the output buffers more often",
    "  -z, --null-data",
    "                 separate lines by NUL characters",
    "      --help     display this help and exit",
    "      --version  output version information and exit",
    "",
    "If no -e, --expression, -f, or --file option is given, then the first",
    "non-option argument is taken as the sed script to interpret.  All",
    "remaining arguments are names of input files; if no input files are",
    "specified, then the standard input is read.",
    "",
    "GNU sed home page: <https://www.gnu.org/software/sed/>.",
    "General help using GNU software: <https://www.gnu.org/gethelp/>."]

/-- The options; those without a letter of ASCII have long names only. -/
def spec : Options where
  name := "sed"
  letters := "bsnrzuEe:f:l:i::δποφ"
  usage := usageLines
  hints := false
  help := usageLines ++ ["E-mail bug reports to: <bug-sed@gnu.org>."]
  longs := [("binary", 'b'), ("regexp-extended", 'r'), ("debug", 'δ'), ("expression", 'e'),
    ("file", 'f'), ("in-place", 'i'), ("line-length", 'l'), ("null-data", 'z'),
    ("zero-terminated", 'z'), ("quiet", 'n'), ("posix", 'π'), ("silent", 'n'), ("sandbox", 'ο'),
    ("separate", 's'), ("unbuffered", 'u'), ("version", Options.versionLetter),
    ("help", Options.helpLetter), ("follow-symlinks", 'φ')]

/-- The dialect of regular expressions. -/
def dialectOf (extended : Bool) : Regex.Dialect :=
  if extended then { extended, strictStart := true, strictClose := true, confusing := true }
  else { strictRepeats := true, confusing := true }

/-- The mode that options ask for. -/
def modeOf (choices : List Choice) : Mode where
  quiet := chosen choices "n"
  separate := chosen choices "si"
  inPlace := chosen choices "i"
  copyName := (valueOf? choices "i").getD []
  followsLinks := chosen choices "φ"
  unbuffered := chosen choices "u"
  mark := if chosen choices "z" then '\x00' else '\n'
  spelledLength := ((valueOf? choices "l").map fun cs =>
    numberIn 10 (cs.takeWhile isDigit)).getD spelledLength

/-- Edit files line by line. -/
def run (call : Caller) : Action := fun args =>
  withOptions spec args fun choices operands => do
    match ← piecesOf choices with
    | none => return 4
    | some given =>
    let byOption := chosen choices "ef"
    if !byOption && operands.isEmpty then
      for l in usageLines do Run.complain l.toList
      return 1
    let (pieces, files) := if byOption then (given, operands)
      else ([⟨.expression 1, operands.head?.getD []⟩], operands.drop 1)
    let mode := modeOf choices
    let manner : Manner :=
      { dialect := dialectOf (chosen choices "Er"), confined := chosen choices "ο"
        mark := mode.mark }
    match parse manner pieces with
    | .error (why, status) =>
      complain "sed" why
      return status
    | .ok script =>
      if mode.inPlace && files.isEmpty then
        complain "sed" "no input files".toList
        return 4
      else
        let mode := { mode with quiet := mode.quiet || isQuiet pieces }
        editFiles call mode script (placeBehind pieces) (if files.isEmpty then [['-']] else files)

end BulkSuppress.Shell.Utility.Sed
