import BulkSuppress.Shell.Utility.Output

/-
  Commands with arguments from the input. The input is read as pieces: arguments, ends of lines, and
  what puts an end to reading. The arguments are put together into batches as the manner says, and a
  command runs for each batch. Several commands can run at the same time: each of them starts at the
  clock of the one that starts them, which only goes on to the end of a command to wait for it.
-/

namespace BulkSuppress.Shell.Utility.Batches

/-- How arguments are read and put together. -/
structure Manner where
  /-- What stands behind each argument; without it blanks part arguments, and quotes count. -/
  parting : Option Char := none
  /-- The argument that puts an end to the input. -/
  last : Option Octets := none
  /-- What each line of the input takes the place of in the command. -/
  mark : Option Octets := none
  /-- The number of lines for a command. -/
  lines : Option Nat := none
  /-- The number of arguments for a command. -/
  count : Option Nat := none
  /-- The room that a command and its arguments have, each with an octet behind it. -/
  room : Nat := 131072
  /-- Arguments that do not find enough room put an end to it all. -/
  isStrict : Bool := false
  /-- Nothing runs without arguments. -/
  needsArguments : Bool := false
  /-- Commands are shown before they run. -/
  shows : Bool := false
  /-- It is asked before a command runs. -/
  asks : Bool := false
  /-- The number of commands that run at the same time; zero stands for as many as there are. -/
  atOnce : Nat := 1
  /-- The variable that numbers the commands that run at the same time. -/
  slot : Option Octets := none
  /-- The arguments come from this file, and commands keep the input. -/
  file : Option Octets := none

/-! ## Pieces of the input -/

/-- A piece of the input. -/
inductive Piece where
  | argument (cs : Octets)
  /-- The end of a line; one behind a blank does not count. -/
  | lineEnd (counts : Bool)
  /-- An octet that no argument can have. -/
  | zero
  /-- A line ends between quotes. -/
  | unmatched (quote : Char)
  /-- An argument has no room. -/
  | tooLong
deriving DecidableEq, Repr

/-- Where in a line the next octet stands. -/
inductive Place where
  /-- In front of an argument. -/
  | front
  | plain
  | quoted (quote : Char)
  | escaped
deriving DecidableEq, Repr

/-- What has been read of the input. -/
structure Reader where
  /-- The pieces, last first. -/
  pieces : List Piece := []
  /-- The octets of the argument that is being read, last first. -/
  text : Octets := []
  place : Place := .front
  previous : Char := '\n'
  /-- There were quotes in the argument. -/
  isQuoted : Bool := false
  /-- The argument is the first one of its line. -/
  isFirst : Bool := true
  warned : Bool := false
  ended : Bool := false

namespace Reader

/-- The reader behind the end of an argument. -/
def closed (b : Manner) (r : Reader) : Reader :=
  let cs := r.text.reverse.takeWhile (· ≠ '\x00')
  if b.last = some cs then { r with ended := true }
  else { r with pieces := .argument cs :: r.pieces, text := [], isQuoted := false, isFirst := false }

/-- The reader behind one more octet of an argument, of which only so many have room. -/
def put (limit : Nat) (r : Reader) (c : Char) : Reader :=
  let r := if c = '\x00' && !r.warned then
      { r with pieces := .zero :: r.pieces, warned := true }
    else r
  if limit ≤ r.text.length then { r with pieces := .tooLong :: r.pieces, ended := true }
  else { r with text := c :: r.text }

/-- The reader behind the end of a line. -/
def lineEnded (counts : Bool) (r : Reader) : Reader :=
  { r with pieces := .lineEnd counts :: r.pieces, place := .front, isFirst := true }

/-- The reader behind an octet where quotes do not count. -/
def plain (b : Manner) (limit : Nat) (r : Reader) (c : Char) : Reader :=
  let isBlank (c : Char) : Bool := c = ' ' || c = '\t'
  if c = '\n' then
    if r.text.isEmpty && !r.isQuoted then
      { r with place := .front }
    else (r.closed b).lineEnded !(isBlank r.previous)
  else if isBlank c && b.mark.isNone then { r.closed b with place := .front }
  else if c = '\\' then { r with place := .escaped }
  else if c = '\'' || c = '"' then { r with place := .quoted c, isQuoted := true }
  else { r.put limit c with place := .plain }

/-- The reader behind an octet. -/
def step (b : Manner) (limit : Nat) (r : Reader) (c : Char) : Reader :=
  if r.ended then r
  else
    let after : Reader := match b.parting, r.place with
      | some mark, _ => if c = mark then (r.closed { b with last := none }).lineEnded true
        else r.put limit c
      | none, .front =>
        if c = ' ' || ('\t' ≤ c && c ≤ '\r') then r else r.plain b limit c
      | none, .plain => r.plain b limit c
      | none, .quoted quote =>
        if c = '\n' then { r with pieces := .unmatched quote :: r.pieces, ended := true }
        else if c = quote then { r with place := .plain }
        else r.put limit c
      | none, .escaped => { r.put limit c with place := .plain }
    { after with previous := c }

/-- The reader behind all of the input. -/
def finished (b : Manner) (r : Reader) : Reader :=
  if r.ended || r.text.isEmpty then r
  else
    match b.parting, r.place with
    | none, .quoted quote => { r with pieces := .unmatched quote :: r.pieces }
    | none, _ => r.closed (if r.isFirst then b else { b with last := none })
    | some _, _ => r.closed { b with last := none }

end Reader

/-- The pieces of the input, given how much room the longest argument has. -/
def pieces (b : Manner) (limit : Nat) (cs : Octets) : List Piece :=
  ((cs.foldl (Reader.step b limit) {}).finished b).pieces.reverse

/-- The text with another in place of each occurrence of a mark. -/
def replacedIn (mark new : Octets) (cs : Octets) : Octets :=
  match cs with
  | [] => []
  | c :: rest =>
    if !mark.isEmpty && mark.isPrefixOf (c :: rest) then
      new ++ replacedIn mark new (rest.drop (mark.length - 1))
    else c :: replacedIn mark new rest
termination_by cs.length
decreasing_by all_goals simp only [List.length_drop, List.length_cons]; omega

/-! ## Running commands -/

/-- A command that runs. -/
structure Running where
  name : Octets
  slot : Nat
  ended : Run.Ended
  time : Nat

/-- What has been put together so far. -/
structure Progress where
  /-- The arguments of the next command. -/
  arguments : List Octets := []
  /-- The number of lines that they come from. -/
  lines : Nat := 0
  /-- A command has run. -/
  hasRun : Bool := false
  /-- The commands that have not been waited for. -/
  running : List Running := []
  status : Nat := 0

/-- Putting arguments together; it may end early with a status. -/
abbrev Work := ExceptT Nat (StateT Progress Run)

/-- The room that words take. -/
def roomOf (words : List Octets) : Nat := total (words.map fun w => w.length + 1)

/-- Note how a command ended. -/
def noted (r : Running) : Work Unit := do
  match r.ended with
  | .exited 0 => return
  | .exited 255 =>
    (complain "xargs" (r.name ++ ": exited with status 255; aborting".toList) : Run Unit)
    throw 124
  | .exited _ => modify fun p => { p with status := 123 }
  | .killed signal =>
    (complain "xargs" (r.name ++ ": terminated by signal ".toList ++ decimal signal) : Run Unit)
    throw 125

/-- Wait until no more than so many commands run. -/
def waited (count : Nat) : Work Unit := do
  let byTime := (← get).running.mergeSort fun a b => a.time ≤ b.time
  let done := byTime.take (byTime.length - count)
  modify fun p => { p with running := byTime.drop done.length }
  for r in done do
    modifyThe Machine fun m => { m with clock := max m.clock r.time }
    noted r

section

variable (call : Caller) (b : Manner)

/-- Start a command. -/
def start (name : Octets) (args : List Octets) : Work Unit := do
  if b.atOnce ≠ 0 then waited (b.atOnce - 1)
  if b.shows || b.asks then
    let text := Octets.join [' '] ((name :: args).map shownName)
    let _ ← (Run.writeTo 2 (text ++ if b.asks then [] else ['\n']) : Run (Option SystemError))
    if b.asks then
      (complain "xargs" "failed to open /dev/tty for reading: No such device or address".toList
        : Run Unit)
      throw 1
  let used := (← get).running.map (·.slot)
  let slot := ((List.range (used.length + 1)).find? fun n => !used.contains n).getD 0
  let before ← getThe Machine
  let ended ← (Run.inProcess do
    modify fun m => { m with clock := m.clock + 1 }
    if b.file.isNone then modify (·.opening 0 .nowhere)
    match b.slot with
    | some x =>
      let v : Variable := { value := some (decimal slot), exported := true }
      modify (·.withVariable (String.ofList x) (some v))
    | none => pure ()
    Utility.called call name args : Run (Except SystemError Run.Ended))
  match ended with
  | .error e =>
    (complainAbout "xargs" name e : Run Unit)
    throw (statusWithout e)
  | .ok ended =>
    let time := (← getThe Machine).clock
    modifyThe Machine fun m => { m with clock := before.clock }
    modify fun p => { p with hasRun := true, running := p.running ++ [⟨name, slot, ended, time⟩] }

/-- Start a command with the arguments that there are. -/
def startBatch (command : List Octets) : Work Unit := do
  match command ++ (← get).arguments with
  | name :: args =>
    modify fun p => { p with arguments := [], lines := 0 }
    start call b name args
  | [] => return

/-- End, because the input makes no sense. -/
def refuse {α : Type} (why : String) (before : Work Unit) : Work α := do
  (complain "xargs" why.toList : Run Unit)
  before
  waited 0
  let status := (← get).status
  throw (if status = 0 then 1 else status)

/-- Take one more argument for a command. -/
def take (command : List Octets) (cs : Octets) : Work Unit := do
  let p ← get
  if b.room < roomOf (command ++ p.arguments) + cs.length + 1 then
    if p.arguments.isEmpty then
      refuse "cannot fit single argument within argument list size limit" (pure ())
    else if b.isStrict && (b.lines.isSome || b.count.isSome) then
      refuse "argument list too long" (pure ())
    else startBatch call b command
  modify fun p => { p with arguments := p.arguments ++ [cs] }
  if (← get).arguments.length = b.count then startBatch call b command

/-- Start a command in which an argument takes the place of a mark. -/
def takeInPlace (mark : Octets) (command : List Octets) (cs : Octets) : Work Unit := do
  match command with
  | name :: args =>
    let words := args.map (replacedIn mark cs)
    if mark.isEmpty || words.any fun w => b.room ≤ w.length + 1 then
      refuse "command too long" (pure ())
    else if b.room < roomOf (name :: words) then refuse "argument list too long" (pure ())
    else start call b name words
  | [] => return

/-- Follow a piece of the input. -/
def follow (command : List Octets) (piece : Piece) : Work Unit := do
  let rest : Work Unit := do
    if !b.isStrict && b.mark.isNone && !(← get).arguments.isEmpty then startBatch call b command
  match piece with
  | .argument cs =>
    match b.mark with
    | some mark => takeInPlace call b mark command cs
    | none => take call b command cs
  | .lineEnd counts =>
    if counts then modify fun p => { p with lines := p.lines + 1 }
    if b.lines.any (· ≤ (← get).lines) then startBatch call b command
  | .zero =>
    (complain "xargs" ("WARNING: a NUL character occurred in the input.  It cannot be passed " ++
      "through in the argument list.  Did you mean to use the --null option?").toList : Run Unit)
  | .unmatched quote =>
    refuse ("unmatched " ++ (if quote = '"' then "double" else "single") ++
      " quote; by default quotes are special to xargs unless you use the -0 option") rest
  | .tooLong => refuse "argument line too long" rest

/-- Run the command for all batches of arguments in the input. -/
def batches (command : List Octets) (cs : Octets) : Work Unit := do
  if b.room < roomOf (command.take (if b.mark.isSome then 1 else command.length)) then
    refuse "cannot fit single argument within argument list size limit" (pure ())
  let used := if b.mark.isSome then 0 else roomOf command
  for piece in pieces b (b.room - used - 1) cs do follow call b command piece
  let p ← get
  if b.mark.isNone && (!p.arguments.isEmpty || (!p.hasRun && !b.needsArguments)) then
    startBatch call b command
  waited 0

end

/-! ## Options -/

/-- The integer that a text is, with blanks and a sign in front. -/
def integer? (cs : Octets) : Option Int :=
  match cs.dropWhile fun c => c = ' ' || ('\t' ≤ c && c ≤ '\r') with
  | '-' :: ds => (decimal? ds).map fun n => -(n : Int)
  | '+' :: ds => (decimal? ds).map fun n => (n : Int)
  | ds => (decimal? ds).map fun n => (n : Int)

/-- Reading options, with the manner that they ask for so far. -/
abbrev Settings := ExceptT Nat (StateT Manner Run)

/-- End, because an option makes no sense. -/
def deny {α : Type} (text : Octets) (hints : Bool) : Settings α := do
  (complain "xargs" text : Run Unit)
  if hints then (hint "xargs" : Run Unit)
  throw 1

/-- The number that an option has as its value, between limits. -/
def number (letter : Char) (low : Nat) (high : Option Nat) (cs : Octets) : Settings Nat := do
  let behind := "-".toList ++ [letter] ++ " option".toList
  let bounded (sign : String) (limit : Nat) : Settings Nat := do
    let why := "value ".toList ++ cs ++ " for ".toList ++ behind ++ " should be ".toList ++
      sign.toList ++ [' '] ++ decimal limit
    if letter = 's' then
      (complain "xargs" why : Run Unit)
      return limit
    else deny why true
  match integer? cs with
  | none => deny ("invalid number \"".toList ++ cs ++ "\" for ".toList ++ behind) true
  | some n =>
    if n < low then bounded ">=" low
    else if high.any fun h => (h : Int) < n then bounded "<=" (high.getD 0)
    else return n.toNat

/-- The octet that a text stands for as the mark behind arguments. -/
def delimiter (cs : Octets) : Settings Char := do
  let invalid : Octets := "Invalid escape sequence ".toList ++ cs ++
    " in input delimiter specification".toList
  let coded (base : Nat) (limit : String) (digits : Octets) : Settings Char := do
    let ds := digits.takeWhile fun c => (digitIn? base c).isSome
    if ds.length < digits.length || ds.isEmpty then
      deny (invalid ++ "; trailing characters ".toList ++ digits.drop ds.length ++
        " not recognised.".toList) false
    else if 255 < numberIn base ds then
      deny (invalid ++ "; character values must not exceed ".toList ++ limit.toList ++ ['.']) false
    else return Char.ofNat (numberIn base ds)
  match cs with
  | [c] => return c
  | '\\' :: 'x' :: digits => coded 16 "ff" digits
  | '\\' :: c :: rest =>
    if isDigit c then coded 8 "377" (c :: rest)
    else
      match ((escapeLetters.map fun e => (e.2, e.1)) ++ [('\\', '\\')]).lookup c with
      | some d => if rest.isEmpty then return d else deny (invalid ++ ['.']) false
      | none => deny (invalid ++ ['.']) false
  | _ =>
    deny ("Invalid input delimiter specification ".toList ++ cs ++ (": the delimiter must be " ++
      "either a single character or an escape sequence starting with \\.").toList) false

/-- Say that an option takes the place of others before it. -/
def replacing (option : String) (others : List (Bool × String)) : Settings Unit := do
  for (isThere, other) in others do
    if isThere then
      (complain "xargs" ("warning: options " ++ other ++ " and " ++ option ++
        " are mutually exclusive, ignoring previous " ++ other ++ " value").toList : Run Unit)

/-- The room that the environment takes. -/
def environmentRoom (m : Machine) : Nat :=
  total (m.environment.map fun v => v.1.length + v.2.length + 2)

/-- The greatest room that a command can be given. -/
def greatestRoom (m : Machine) : Nat := 2095104 - environmentRoom m

/-- Tell how much room there is. -/
def tellRoom (b : Manner) : Run Unit := do
  let m ← get
  let rows : List (String × Nat) :=
    [("POSIX upper limit on argument length (this system)", greatestRoom m),
      ("POSIX smallest allowable upper limit on argument length (all systems)", 4096),
      ("Maximum length of command we could actually use", greatestRoom m - environmentRoom m),
      ("Size of command buffer we are actually using", b.room),
      ("Maximum parallelism (--max-procs must be no greater)", 2147483647)]
  Run.complain ("Your environment variables take up ".toList ++ decimal (environmentRoom m) ++
    " bytes".toList)
  for (what, n) in rows do Run.complain (what.toList ++ ": ".toList ++ decimal n)

/-- Follow an option. -/
def follow' (c : Choice) : Settings Unit := do
  let b ← get
  let value := c.value
  match c.letter with
  | '0' => set { b with parting := some '\x00' }
  | 'a' => set { b with file := some value }
  | 'd' =>
    let mark ← delimiter value
    set { b with parting := some mark }
  | 'E' | 'e' => set { b with last := if value.isEmpty then none else some value }
  | 'I' | 'i' =>
    replacing "--replace/-I/-i"
      [(b.count.isSome, "--max-args"), (b.lines.isSome, "--max-lines")]
    let mark := if c.letter = 'i' && value.isEmpty then "\x7b\x7d".toList else value
    set { b with mark := some mark, count := none, lines := none }
  | 'L' | 'l' =>
    let n ← if c.letter = 'l' && value.isEmpty then pure 1 else number c.letter 1 none value
    replacing (if c.letter = 'L' then "-L" else "--max-lines/-l")
      [(b.count.isSome, "--max-args"), (b.mark.isSome, "--replace")]
    set { b with lines := some n, count := none, mark := none }
  | 'n' =>
    let n ← number 'n' 1 none value
    if n = 1 && b.mark.isSome then set { b with count := none }
    else
      replacing "--max-args/-n" [(b.lines.isSome, "--max-lines"), (b.mark.isSome, "--replace")]
      set { b with count := some n, lines := none, mark := none }
  | 's' =>
    let n ← number 's' 1 (some (greatestRoom (← getThe Machine))) value
    set { b with room := n }
  | 'P' =>
    let n ← number 'P' 0 (some 2147483647) value
    set { b with atOnce := n }
  | 'r' => set { b with needsArguments := true }
  | 't' => set { b with shows := true }
  | 'p' => set { b with asks := true }
  | 'x' => set { b with isStrict := true }
  | 'σ' =>
    if value.contains '=' then
      deny ("option --process-slot-var may not be set to a value which includes " ++
        "\x60='").toList false
    else set { b with slot := some value }
  | _ => return

end Batches

/-- Run commands with arguments from the input. -/
def xargs (call : Caller) : Action := fun args =>
  withOptions
    { name := "xargs", letters := "0a:E:e::i::I:l::L:n:prs:txP:d:oSσ:", inFront := true
      longs := [("null", '0'), ("arg-file", 'a'), ("delimiter", 'd'), ("eof", 'e'),
        ("replace", 'i'), ("max-lines", 'l'), ("max-args", 'n'), ("open-tty", 'o'),
        ("interactive", 'p'), ("no-run-if-empty", 'r'), ("max-chars", 's'), ("verbose", 't'),
        ("show-limits", 'S'), ("exit", 'x'), ("max-procs", 'P'), ("process-slot-var", 'σ'),
        ("version", Options.versionLetter), ("help", Options.helpLetter)] } args
    fun choices operands => do
    let (read, b) ← (((choices.forM Batches.follow').run).run {} :
      Run (Except Nat Unit × Batches.Manner))
    match read with
    | .error status => return status
    | .ok () =>
      if b.last.isSome && b.parting.isSome then
        complain "xargs" "warning: the -E option has no effect if -0 or -d is used.\n".toList
      if chosen choices "S" then Batches.tellRoom b
      let command := if operands.isEmpty then ["echo".toList] else operands
      let content ← match b.file with
        | some file => if file = ['-'] then standardInput else pure ((← get).readFile file)
        | none => standardInput
      match b.file, content with
      | some file, .error e =>
        if e = .isDirectory then work b command []
        else
          complain "xargs" ("Cannot open input file ".toList ++ quoted file ++ ": ".toList ++
            (reasonOf e).toList)
          return 1
      | _, .error _ => work b command []
      | _, .ok cs => work b command cs
where
  /-- Run the command for all of the input, and tell how that ended. -/
  work (b : Batches.Manner) (command : List Octets) (cs : Octets) : Run Nat := do
    let b := { b with isStrict := b.isStrict || b.mark.isSome || b.lines.isSome }
    match ← ((Batches.batches call b command cs).run).run {} with
    | (.error status, _) => return status
    | (.ok (), p) => return p.status

end BulkSuppress.Shell.Utility
