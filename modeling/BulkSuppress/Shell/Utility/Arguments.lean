import BulkSuppress.Shell.Machine
import BulkSuppress.Shell.Utility.Quoting

/-
  The arguments of utilities. Options can stand between operands, letters can be bundled, and long
  names can be cut short as long as they are unique. What a utility reads and what it has to
  complain about goes through the descriptors of the script that calls it. Numbers of things come
  with units behind them: `2K` is 2048, `2kB` is 2000. A unit alone stands for one of it.
-/

namespace BulkSuppress.Shell.Utility

/-- An option with its value, which is empty if it has none. -/
structure Choice where
  letter : Char
  value : Octets := []

/-- The options of a utility. -/
structure Options where
  /-- The utility. -/
  name : String
  /-- The letters; a colon follows one with a value, two colons one with a bundled value. -/
  letters : String
  /-- The long names of letters. -/
  longs : List (String × Char) := []
  /-- How the utility ends when its arguments make no sense. -/
  failure : Nat := 1
  /-- Options only stand in front of operands. -/
  inFront : Bool := false
  /-- What looks like a negative number is an operand, and so is all behind it. -/
  negatives : Bool := false
  /-- The lines that say how the utility is used, behind a complaint about arguments. -/
  usage : List String := []
  /-- A hint where help can be found follows them. -/
  hints : Bool := true
  /-- What the utility tells about its use when it is asked. -/
  help : List String := []

/-- How an option takes a value. -/
inductive Valued where
  | no
  | yes
  | ifBundled
deriving DecidableEq, Repr

/-- Why arguments are not read any further. -/
inductive Stop where
  /-- An argument makes no sense. -/
  | complaint (why : Octets)
  /-- The utility is to tell about itself. -/
  | version
  /-- The utility is to tell how it is used. -/
  | help

namespace Options

/-- How a letter takes a value, if it is an option. -/
def valued? (o : Options) (c : Char) : Option Valued :=
  match o.letters.toList.dropWhile (· ≠ c) with
  | _ :: ':' :: ':' :: _ => some .ifBundled
  | _ :: ':' :: _ => if c = ':' then none else some .yes
  | _ :: _ => if c = ':' then none else some .no
  | [] => none

/-- The letter that stands for asking for the version. -/
def versionLetter : Char := 'ν'

/-- The letter that stands for asking for help. -/
def helpLetter : Char := 'η'

/-- The long names, with those that all utilities have at their end. -/
def allLongs (o : Options) : List (String × Char) :=
  if o.longs.any fun l => l.2 = versionLetter then o.longs
  else o.longs ++ [("help", helpLetter), ("version", versionLetter)]

/-- The options that letters spell, and whether the next argument is a value. -/
def bundled (o : Options) (next : Option Octets) : Octets → Except Stop (List Choice × Bool)
  | [] => .ok ([], false)
  | c :: cs =>
    match o.valued? c, cs, next with
    | none, _, _ => .error (.complaint ("invalid option -- '".toList ++ [c] ++ ['\'']))
    | some .no, cs, next => do
      let r ← bundled o next cs
      return (⟨c, []⟩ :: r.1, r.2)
    | some .ifBundled, cs, _ => .ok ([⟨c, cs⟩], false)
    | some .yes, d :: ds, _ => .ok ([⟨c, d :: ds⟩], false)
    | some .yes, [], some value => .ok ([⟨c, value⟩], true)
    | some .yes, [], none =>
      .error (.complaint ("option requires an argument -- '".toList ++ [c] ++ ['\'']))

/-- The option that a long name stands for, and whether the next argument is its value. -/
def long (o : Options) (next : Option Octets) (cs : Octets) : Except Stop (Choice × Bool) :=
  let name := cs.takeWhile (· ≠ '=')
  let value := if name.length < cs.length then some (cs.drop (name.length + 1)) else none
  let exact := o.allLongs.filter fun l => l.1.toList = name
  let found := if exact.isEmpty then o.allLongs.filter fun l => name.isPrefixOf l.1.toList
    else exact
  let complaint (before : String) (shown : Octets) (after : String) : Except Stop (Choice × Bool) :=
    .error (.complaint (before.toList ++ shown ++ after.toList))
  match found with
  | [] => complaint "unrecognized option '--" cs "'"
  | (full, letter) :: more =>
    match more.filter fun l => l.2 ≠ letter with
    | [] =>
      let shown := full.toList
      match (o.valued? letter).getD .no, value, next with
      | .yes, some v, _ => .ok (⟨letter, v⟩, false)
      | .yes, none, some v => .ok (⟨letter, v⟩, true)
      | .yes, none, none => complaint "option '--" shown "' requires an argument"
      | .ifBundled, v, _ => .ok (⟨letter, v.getD []⟩, false)
      | .no, some _, _ => complaint "option '--" shown "' doesn't allow an argument"
      | .no, none, _ =>
        if letter = versionLetter then .error .version
        else if letter = helpLetter then .error .help
        else .ok (⟨letter, []⟩, false)
    | others =>
      complaint "option '--" cs ("' is ambiguous; possibilities:" ++
        String.join (((full, letter) :: others).map fun l => " '--" ++ l.1 ++ "'"))

/-- The options among arguments, and the operands. -/
def read (o : Options) (args : List Octets) : Except Stop (List Choice × List Octets) := do
  match args with
  | [] => return ([], [])
  | ['-', '-'] :: rest => return ([], rest)
  | ('-' :: '-' :: c :: cs) :: rest =>
    let (choice, usesNext) ← o.long rest.head? (c :: cs)
    let r ← read o (rest.drop (if usesNext then 1 else 0))
    return (choice :: r.1, r.2)
  | ('-' :: c :: cs) :: rest =>
    if o.negatives && (isDigit c || c = '.') then return ([], ('-' :: c :: cs) :: rest)
    else
      let (choices, usesNext) ← o.bundled rest.head? (c :: cs)
      let r ← read o (rest.drop (if usesNext then 1 else 0))
      return (choices ++ r.1, r.2)
  | operand :: rest =>
    if o.inFront then return ([], operand :: rest)
    else
      let r ← read o rest
      return (r.1, operand :: r.2)
termination_by args.length
decreasing_by all_goals simp only [List.length_drop, List.length_cons]; omega

end Options

/-- A utility: it takes its arguments, and tells how it ended. -/
abbrev Action := List Octets → Run Nat

/-- The name of a utility as it was called, which may be a path. -/
def calledName (name : String) : Run Octets := do
  let called := (← get).called
  return if ('/' :: name.toList).isSuffixOf called then called else name.toList

/-- Complain in the name of a utility. -/
def complain (name : String) (cs : Octets) : Run Unit := do
  Run.complain ((← calledName name) ++ ": ".toList ++ cs)

/-- Complain about a file, for a reason that the system gives. -/
def complainAbout (name : String) (file : Octets) (e : SystemError) : Run Unit :=
  complain name (file ++ ": ".toList ++ (reasonOf e).toList)

/-- Say where help can be found. -/
def hint (name : String) : Run Unit := do
  let name ← calledName name
  Run.complain ("Try '".toList ++ name ++ " --help' for more information.".toList)

/-- Tell why arguments are not read any further. -/
def stopped (o : Options) (stop : Stop) : Run Nat := do
  match stop with
  | .complaint why =>
    complain o.name why
    for l in o.usage do Run.complain l.toList
    if o.hints then hint o.name
    return o.failure
  | .version =>
    let called := String.ofList (← calledName o.name)
    Run.write ((about? o.name called).getD "").toList
    return 0
  | .help =>
    if o.help.isEmpty then
      Run.write ("Usage: ".toList ++ (← calledName o.name) ++ " [OPTION]...\n".toList)
    else Run.write (o.help.flatMap fun l => l.toList ++ ['\n'])
    return 0

/-- Go on with options and operands, if the arguments make sense. -/
def withOptions (o : Options) (args : List Octets) (act : List Choice → List Octets → Run Nat) :
    Run Nat := do
  match o.read args with
  | .ok (choices, operands) => act choices operands
  | .error stop => stopped o stop

/--
The value that a name stands for, which can be cut short. If there is none, the utility complains
and tells the names that there are; names for the same value share a line.
-/
def namedValue? {α : Type} [BEq α] (name option : String) (table : List (List String × α))
    (value : Octets) : Run (Option α) := do
  let names := table.flatMap fun row => row.1.map fun n => (n.toList, row.2)
  let exact := names.filter fun n => n.1 = value
  let found := if exact.isEmpty then names.filter fun n => value.isPrefixOf n.1 else exact
  let bad (what : String) : Run (Option α) := do
    complain name ((what ++ " argument ").toList ++ quoted value ++ " for ".toList ++
      quoted option.toList)
    Run.complain "Valid arguments are:".toList
    for row in table do
      Run.complain ("  - ".toList ++
        Octets.join ", ".toList (row.1.map fun n => quoted n.toList))
    hint name
    return none
  match found with
  | [] => bad "invalid"
  | (_, x) :: more => if more.all fun n => n.2 == x then return some x else bad "ambiguous"

/-- An option is among the choices. -/
def chosen (choices : List Choice) (letters : String) : Bool :=
  choices.any fun c => letters.toList.contains c.letter

/-- The last value that was chosen for one of some letters. -/
def valueOf? (choices : List Choice) (letters : String) : Option Octets :=
  ((choices.filter fun c => letters.toList.contains c.letter).getLast?).map (·.value)

/-- The octets of the input, or why it cannot be read. -/
def standardInput : Run (Except SystemError Octets) := do
  match (← get).channel? 0 with
  | none => return .error (.code 9)
  | some (_, .file loc _ _) =>
    if (← get).disk.isDirectoryAt loc then return .error .isDirectory
    else return .ok (← Run.readAll)
  | some _ => return .ok (← Run.readAll)

/--
The octets of a file, or of the input if the name says so. A file that is the input is opened anew
by the name of its device.
-/
def contentOf (file : Octets) : Run (Except SystemError Octets) := do
  let m ← get
  if file = ['-'] then standardInput
  else if file = "/dev/stdin".toList then
    match m.channel? 0 with
    | some (_, .file loc _ _) =>
      return if m.disk.isDirectoryAt loc then .error .isDirectory else .ok (m.contentAt loc)
    | _ => standardInput
  else return m.readFile file

/-- The octets of a file to read from; there is a complaint if there are none. -/
def input? (name : String) (file : Octets) : Run (Option Octets) := do
  match ← contentOf file with
  | .ok cs => return some cs
  | .error e =>
    complainAbout name (shownName file) e
    return none

/-- Do something with the octets of each file, or of the input if there are no files. -/
def forEachInput (name : String) (files : List Octets) (act : Octets → Octets → Run Unit) :
    Run Nat := do
  let mut status := 0
  for file in if files.isEmpty then [['-']] else files do
    match ← input? name file with
    | some cs => act file cs
    | none => status := 1
  return status

/-- A text at the right end of a space. -/
def padLeft (width : Nat) (cs : Octets) : Octets := List.replicate (width - cs.length) ' ' ++ cs

/-- A number as octets. -/
def decimal (n : Nat) : Octets := (toString n).toList

/-! ## Numbers with units -/

/-- Why a text is no number. -/
inductive SizeFault where
  | invalid
  | tooLarge
deriving DecidableEq, Repr

/-- The largest number of things. -/
def largestSize : Nat := 18446744073709551615

/-- The unit that a letter stands for, as a power of 1024 or 1000, or as a number. -/
def unitPower? (c : Char) : Option Nat :=
  match c with
  | 'k' | 'K' => some 1
  | 'm' | 'M' => some 2
  | 'g' | 'G' => some 3
  | 't' | 'T' => some 4
  | 'P' => some 5
  | 'E' => some 6
  | 'Z' => some 7
  | 'Y' => some 8
  | _ => none

/-- What a unit is worth, if the letters that can stand for one allow it. -/
def unitValue? (letters : List Char) (unit : Octets) : Option Nat :=
  match unit with
  | [] => some 1
  | ['b'] => if letters.contains 'b' then some 512 else none
  | ['c'] => if letters.contains 'c' then some 1 else none
  | ['w'] => if letters.contains 'w' then some 2 else none
  | ['B'] => if letters.contains 'B' then some 1024 else none
  | c :: behind =>
    if !letters.contains c then none
    else
      let isDouble := letters.contains '0'
      match unitPower? c, behind with
      | some power, [] => some (Nat.pow 1024 power)
      | some power, ['B'] => if isDouble then some (Nat.pow 1000 power) else none
      | some power, ['D'] => if isDouble then some (Nat.pow 1000 power) else none
      | some power, ['i', 'B'] => if isDouble then some (Nat.pow 1024 power) else none
      | _, _ => none

/-- The number that a text spells, with one of the units that letters allow. -/
def sized (letters : String) (cs : Octets) : Except SizeFault Nat :=
  let letters := letters.toList
  let blank (c : Char) : Bool := c = ' ' || ('\t' ≤ c && c ≤ '\r')
  let body := match cs.dropWhile blank with
    | '+' :: rest => rest
    | rest => rest
  let digits := body.takeWhile isDigit
  let unit := body.drop digits.length
  if digits.isEmpty && (unit.isEmpty || !(cs.head?.any letters.contains)) then .error .invalid
  else
    match unitValue? letters unit with
    | none => .error .invalid
    | some value =>
      let n := (if digits.isEmpty then 1 else numberIn 10 digits) * value
      if n ≤ largestSize then .ok n else .error .tooLarge

/-- The units of counts of lines and bytes. -/
def countUnits : String := "bkKmMGTPEZY0"

/-- Complain about a text that is no number of some things. -/
def complainAboutSize (name what : String) (cs : Octets) (fault : SizeFault) : Run Unit :=
  complain name (what.toList ++ ": ".toList ++ quoted cs ++
    (if fault = .tooLarge then ": Value too large for defined data type" else "").toList)

end BulkSuppress.Shell.Utility
