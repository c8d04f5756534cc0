import BulkSuppress.Shell.Utility.Output
import BulkSuppress.Shell.Utility.Mode
import BulkSuppress.Shell.Utility.Names
import BulkSuppress.Shell.Utility.Find.Expression

/-
  Looking for files. All that lies below the starting places is visited, a directory before what
  it holds or behind it, and the expression is decided for each; deeds are done on the way.
-/

namespace BulkSuppress.Shell.Utility.Find

/-- Something that is visited. -/
structure Visit where
  path : Octets
  /-- The place where the way to it started. -/
  start : Octets
  /-- Where it lies, a link itself. -/
  location : Location
  depth : Nat

/-- What happens while files are visited. -/
structure Progress where
  /-- The files for programs that are run in the end, by number, last first. -/
  gathered : List (Nat × Octets) := []
  failed : Bool := false
  /-- What is below the present directory is left out. -/
  pruned : Bool := false
  stopped : Bool := false

/-- Visiting, with what happened so far. -/
abbrev Walk := StateT Progress Run

/-- The letter for the kind of an entry. -/
def kindLetter : Entry → Char
  | .file .. => 'f'
  | .directory => 'd'
  | .link _ => 'l'
  | .nullDevice => 'c'

/-- What is at a location, or where a link there leads if it is followed to something. -/
def entryOf (d : Disk) (follows : Bool) (loc : Location) : Option (Location × Entry) :=
  match d.entryAt? loc with
  | some (.link target) =>
    match if follows then d.resolve ⟨"/" ++ Path.slashed loc⟩ else .error .notFound with
    | .ok place => (d.entryAt? place).map fun e => (place, e)
    | .error _ => some (loc, .link target)
  | some e => some (loc, e)
  | none => none

/-- The size of an entry in octets. -/
def sizeOf : Entry → Nat
  | .file content _ => content.size
  | .directory => 4096
  | .link target => target.text.utf8ByteSize
  | .nullDevice => 0

/-- The last name of a path as conditions on names see it. -/
def nameOf (path : Octets) : Octets := lastName path

/-- A condition holds for what is visited. -/
def Condition.holds (m : Machine) (follows : Bool) (v : Visit) : Condition → Bool
  | .name pattern folds =>
    isMatch pattern (if folds then (nameOf v.path).map Char.toLower else nameOf v.path)
  | .path pattern folds => isMatch pattern (if folds then v.path.map Char.toLower else v.path)
  | .regex r folds =>
    let s : Regex.Subject := { octets := v.path.toArray, foldsCase := folds }
    (Regex.ends s [] r 0).contains s.octets.size
  | .kind letters otherwise =>
    (entryOf m.disk (follows != otherwise) v.location).any fun e => letters.contains (kindLetter e.2)
  | .size amount unit =>
    (entryOf m.disk follows v.location).any fun e =>
      amount.holds ((sizeOf e.2 + unit - 1) / unit)
  | .empty =>
    match entryOf m.disk follows v.location with
    | some (_, .file content _) => content.size = 0
    | some (loc, .directory) => (m.disk.children loc).isEmpty
    | _ => false
  | .mode how bits =>
    (entryOf m.disk follows v.location).any fun e =>
      let own := m.modeAt e.1
      match how with
      | .exactly => own = bits
      | .all => own &&& bits = bits
      | .some => bits = 0 || own &&& bits ≠ 0
  | .target pattern folds =>
    match m.disk.entryAt? v.location with
    | some (.link there) =>
      let cs := Octets.ofText there.text
      isMatch pattern (if folds then cs.map Char.toLower else cs)
    | _ => false
  | .same loc => (entryOf m.disk follows v.location).any fun e => e.1 = loc
  | .links amount =>
    (entryOf m.disk follows v.location).any fun e => amount.holds (match e.2 with
      | .directory => 2 + ((m.disk.children e.1).filter fun name =>
          m.disk.isDirectoryAt (e.1 ++ [name])).length
      | _ => (m.attributes.namesOf e.1).length)
  | .age byAccess inMinutes amount =>
    (entryOf m.disk follows v.location).any fun e =>
      let s := m.stampAt e.1
      let age := m.now - if byAccess then s.access else s.change
      if inMinutes then
        match amount with
        | .above n => (n : Int) * minute < age
        | .below n => age < (n : Int) * minute
        | .exactly n => ((n : Int) - 1) * minute ≤ age && age < (n : Int) * minute
      else amount.holds (age.fdiv (1440 * minute)).toNat
  | .newer byAccess than =>
    (entryOf m.disk follows v.location).any fun e =>
      let s := m.stampAt e.1
      than < if byAccess then s.access else s.change
  | .usable letter =>
    match entryOf m.disk true v.location with
    | some (_, .link _) | none => false
    | some (loc, e) => letter ≠ 'x' || e matches .directory || m.modeAt loc &&& 73 ≠ 0
  | .constant b => b
where
  /-- The nanoseconds of a minute. -/
  minute : Int := 60000000000

/-! ## Formats -/

/-- What stands in front of the last name of a path. -/
def frontOf (path : Octets) : Octets :=
  if path.contains '/' then
    let front := (path.reverse.dropWhile (· ≠ '/')).drop 1
    if front.isEmpty && path.length ≠ 1 then [] else front.reverse
  else ['.']

/-- The part of a second in a time, with ten digits. -/
def fraction (time : Int) : Octets :=
  let ds := (toString (time.fmod 1000000000)).toList
  '.' :: List.replicate (9 - ds.length) '0' ++ ds ++ ['0']

/-- A time in a format, with the part of a second in the middle. -/
def timeIn (first second : String) (time : Int) : Octets :=
  let t := Moment.ofNanoseconds time
  t.format false first.toList ++ fraction time ++ t.format false second.toList

/-- A time with all that is known of it. -/
def inFull (time : Int) : Octets := timeIn "%a %b %e %H:%M:%S" " %Y" time

/-- What a letter makes of a time. -/
def timePart (letter : Char) (time : Int) : Octets :=
  match letter with
  | '@' => (toString (time.fdiv 1000000000)).toList ++ fraction time
  | '+' => timeIn "%Y-%m-%d+%H:%M:%S" "" time
  | 'T' | 'X' => timeIn "%H:%M:%S" "" time
  | 'S' => timeIn "%S" "" time
  | letter =>
    if "HIklMprcDdxFYyBbhmjaAwUWVGgzZuCeRsP".toList.contains letter then
      (Moment.ofNanoseconds time).format false ['%', letter]
    else ['%', letter]

/-- What a letter of a format stands for. -/
def formatted (m : Machine) (follows : Bool) (v : Visit) (letter : Char) : Option Octets :=
  let entry := entryOf m.disk follows v.location
  let loc := (entry.map (·.1)).getD v.location
  let decimal (n : Nat) : Octets := (toString n).toList
  let kind := (entry.map fun e => kindLetter e.2).getD '?'
  let size := (entry.map fun e => sizeOf e.2).getD 0
  let blocks (unit : Nat) : Nat := if kind = 'l' then 0 else (size + 4095) / 4096 * (4096 / unit)
  match letter with
  | 'p' => some v.path
  | 'f' => some (nameOf v.path)
  | 'h' => some (frontOf v.path)
  | 'H' => some v.start
  | 'P' => some ((v.path.drop v.start.length).dropWhile (· = '/'))
  | 's' => some (decimal size)
  | 'd' => some (decimal v.depth)
  | 'y' => some [kind]
  | 'Y' => some (match entryOf m.disk true v.location with
      | some (_, .link _) | none => ['N']
      | some e => [kindLetter e.2])
  | 'l' => some (match m.disk.entryAt? v.location with
      | some (.link target) => if follows then [] else Octets.ofText target.text
      | _ => [])
  | 'm' => some (Nat.toDigits 8 (m.modeAt loc))
  | 'M' => some ((if kind = 'f' then '-' else kind) :: rights (m.modeAt loc))
  | 'u' | 'g' => some "root".toList
  | 'U' | 'G' | 'D' => some ['0']
  | 'n' => some (decimal (if kind = 'd' then 2 + ((m.disk.children loc).filter fun name =>
      m.disk.isDirectoryAt (loc ++ [name])).length else (m.attributes.namesOf loc).length))
  | 'b' => some (decimal (blocks 512))
  | 'k' => some (decimal (blocks 1024))
  | 'i' => some ['1']
  | 'a' => some (inFull (m.stampAt loc).access)
  | 'c' | 't' => some (inFull (m.stampAt loc).change)
  | '%' => some ['%']
  | _ => none

/-- What a format makes of what is visited, and whether it asks for an end at once. -/
def expanded (m : Machine) (follows : Bool) (v : Visit) (cs : Octets) : Octets :=
  match cs with
  | [] => []
  | '%' :: rest =>
    let flags := rest.takeWhile fun c => "-0+# ".toList.contains c || isDigit c || c = '.'
    match rest.drop flags.length with
    | [] => '%' :: flags
    | letter :: more =>
      let s := m.stampAt (((entryOf m.disk follows v.location).map (·.1)).getD v.location)
      let time : Option Int := match letter with
        | 'A' => some s.access
        | 'T' | 'C' => some s.change
        | _ => none
      let behind := rest.drop (flags.length + if time.isSome && !more.isEmpty then 2 else 1)
      let text := match time, more with
        | some t, part :: _ => some (timePart part t)
        | _, _ => formatted m follows v letter
      match text with
      | some text =>
        let left := flags.contains '-'
        let width := numberIn 10 ((flags.dropWhile fun c => !isDigit c || c = '0').takeWhile isDigit)
        let space := List.replicate (width - text.length) ' '
        (if left then text ++ space else space ++ text) ++ expanded m follows v behind
      | none => '%' :: flags ++ [letter] ++ expanded m follows v behind
  | '\\' :: 'c' :: _ => []
  | '\\' :: c :: rest =>
    match Format.escapes.lookup c with
    | some d => d :: expanded m follows v rest
    | none =>
      if (digitIn? 8 c).isSome then
        let digits := ((c :: rest).take 3).takeWhile fun c => (digitIn? 8 c).isSome
        Format.octetOf (numberIn 8 digits) :: expanded m follows v (rest.drop (digits.length - 1))
      else '\\' :: c :: expanded m follows v rest
  | c :: rest => c :: expanded m follows v rest
termination_by cs.length
decreasing_by all_goals simp only [List.length_drop, List.length_cons]; omega

/-- The signs of a format that stand for nothing, with the words about them. -/
def formatWarnings (cs : Octets) : List Octets :=
  match cs with
  | [] => []
  | '%' :: rest =>
    let flags := rest.takeWhile fun c => "-0+# ".toList.contains c || isDigit c || c = '.'
    match rest.drop flags.length with
    | [] => []
    | letter :: _ =>
      let isLast := rest.length ≤ flags.length + 1
      let own := if "ACT".toList.contains letter && isLast then
          ["warning: format directive ".toList ++ marked ['%', letter] ++
            " should be followed by another character".toList]
        else if "pfhHPsdyYlmMugUGDnbki%aActTBSFZ".toList.contains letter then []
        else ["warning: unrecognized format directive ".toList ++ marked ['%', letter]]
      own ++ formatWarnings (rest.drop (flags.length + 1))
  | '\\' :: c :: rest =>
    let own := if (Format.escapes.lookup c).isSome || (digitIn? 8 c).isSome || c = 'c' then []
      else ["warning: unrecognized escape ".toList ++ marked ['\\', c]]
    own ++ formatWarnings rest
  | _ :: rest => formatWarnings rest
termination_by cs.length
decreasing_by all_goals simp only [List.length_drop, List.length_cons]; omega

/-- The line that lists what is visited. -/
def listed (m : Machine) (follows : Bool) (v : Visit) : Octets :=
  let time := (m.stampAt (((entryOf m.disk follows v.location).map (·.1)).getD v.location)).change
  let isRecent := m.now - 15778476 * 1000000000 ≤ time && time ≤ m.now
  let day := "%9i %6k %M %3n %-8u %-8g %8s %Tb ".toList ++
    (Moment.ofNanoseconds time).format false "%e".toList
  expanded m follows v (day ++ (if isRecent then " %TH:%TM %p\n" else "  %TY %p\n").toList)

/-! ## Deeds -/

/-- Write to the output or to a file, which starts out empty. -/
def writeTo (file : Option Octets) (cs : Octets) : Run Unit := do
  match file with
  | none => Run.write cs
  | some file =>
    let m ← get
    match m.openFile ⟨Octets.toText file⟩ with
    | .error _ => return
    | .ok (loc, m) => set (m.withContent loc (Octets.toBytes (m.contentAt loc ++ cs)))

/-- A word of a command with the path of a file in place of each mark. -/
def withPath (path : Octets) (word : Octets) : Octets :=
  match word with
  | [] => []
  | '\x7b' :: '\x7d' :: rest => path ++ withPath path rest
  | c :: rest => c :: withPath path rest

section

variable (call : Caller)

/-- Run a command in a directory, or where the shell is. -/
def runIn (directory : Option Octets) (words : List Octets) : Run (Option Nat) := do
  let before ← get
  match directory with
  | some dir =>
    match before.disk.resolve ⟨Octets.toText dir⟩ with
    | .ok loc => set { before with disk := { before.disk with workingDirectory := loc } }
    | .error _ => return none
  | none => pure ()
  let result ← match words with
    | [] => pure none
    | name :: args =>
      match ← spawned call name args with
      | .ok (.exited status) => pure (some status)
      | .ok (.killed signal) =>
        complain "find" (quoted name ++ " terminated by signal ".toList ++ decimal signal)
        pure (some 1)
      | .error e =>
        complainAbout "find" (quoted name) e
        pure none
  modify fun m => { m with
    disk := { m.disk with workingDirectory := before.disk.workingDirectory }
    called := before.called }
  return result

/-- The path of a file as a command in its directory gets it. -/
def localPath (path : Octets) : Octets :=
  if path = ['/'] then path else "./".toList ++ lastName path

/-- Do something about what is visited; the answer tells whether that holds. -/
def Deed.done (follows : Bool) (v : Visit) (d : Deed) : Walk Bool := do
  match d with
  | .print file ending =>
    writeTo file (v.path ++ ending)
    return true
  | .format file text =>
    writeTo file (expanded (← getThe Machine) follows v text)
    return true
  | .list file =>
    writeTo file (listed (← getThe Machine) follows v)
    return true
  | .run words inDirectory asks =>
    if asks then
      let _ ← (Run.writeTo 2 ("< ".toList ++ (words.head?.getD []) ++ " ... ".toList ++ v.path ++
        " > ? ".toList) : Run (Option SystemError))
      let line := (← (Run.readAll : Run Octets)).take 1
      if line.head?.all fun c => c ≠ 'y' && c ≠ 'Y' then return false
    let path := if inDirectory then localPath v.path else v.path
    let directory := if inDirectory then some (frontOf v.path) else none
    return (← runIn call directory (words.map (withPath path))) = some 0
  | .gather number _ inDirectory =>
    let path := if inDirectory then localPath v.path else v.path
    modify fun p => { p with gathered := (number, path) :: p.gathered }
    return true
  | .delete =>
    if v.path = ['.'] then return true
    let m ← getThe Machine
    let result := if m.disk.isDirectoryAt v.location then m.removeDirectory ⟨Octets.toText v.path⟩
      else .ok (m.without v.location)
    match result with
    | .ok m =>
      (set m : Run Unit)
      return true
    | .error e =>
      (complain "find" ("cannot delete ".toList ++ quoted v.path ++ ": ".toList ++
        (reasonOf e).toList) : Run Unit)
      modify fun p => { p with failed := true }
      return false
  | .prune =>
    modify fun p => { p with pruned := true }
    return true
  | .quit =>
    modify fun p => { p with stopped := true }
    return true

/-- Decide an expression for what is visited. -/
def Expression.decide (follows : Bool) (v : Visit) : Expression → Walk Bool
  | .condition c => do return c.holds (← getThe Machine) follows v
  | .deed d => d.done call follows v
  | .not a => do
    let r ← a.decide follows v
    return !r
  | .and a b => do
    if ← a.decide follows v then
      if (← get).stopped then return false
      b.decide follows v
    else return false
  | .or a b => do
    if ← a.decide follows v then return true
    else if (← get).stopped then return true
    else b.decide follows v
  | .both a b => do
    let _ ← a.decide follows v
    if (← get).stopped then return false
    b.decide follows v

/-- Visit something and all that lies below it. -/
def visit (s : Settings) (e : Expression) : Nat → Visit → Walk Unit
  | 0, _ => return
  | n + 1, v => do
    if (← get).stopped then return
    let isIn := s.least ≤ v.depth && s.most.all (v.depth ≤ ·)
    let decide : Walk Unit := do
      if isIn then
        let _ ← e.decide call s.follows v
    modify fun p => { p with pruned := false }
    let before ← getThe Machine
    if !s.contentsFirst then decide
    let leavesOut := (← get).pruned && !s.contentsFirst
    let follows := s.follows || (s.followsStarts && v.depth = 0)
    match entryOf before.disk follows v.location with
    | some (loc, .directory) =>
      let m ← getThe Machine
      if !leavesOut && s.most.all (v.depth < ·) && !(← get).stopped then
        if !m.disk.isDirectoryAt loc then
          (complainAbout "find" (quoted v.path) .notFound : Run Unit)
          modify fun p => { p with failed := true }
        for name in m.disk.children loc do
          visit s e n { v with
            path := inDirectory v.path (Octets.ofText name)
            location := loc ++ [name]
            depth := v.depth + 1 }
    | _ => pure ()
    if s.contentsFirst && !(← get).stopped then decide

/-- The programs of an expression that are run in the end. -/
def gathers : Expression → List (Nat × List Octets)
  | .deed (.gather number command _) => [(number, command)]
  | .not a => gathers a
  | .and a b | .or a b | .both a b => gathers a ++ gathers b
  | _ => []

/-- The starting places, and what is told about links in front of them. -/
def startsOf (s : Settings) : List Octets → Settings × List Octets
  | ['-', 'H'] :: rest => startsOf { s with follows := false, followsStarts := true } rest
  | ['-', 'L'] :: rest => startsOf { s with follows := true, followsStarts := true } rest
  | ['-', 'P'] :: rest => startsOf { s with follows := false, followsStarts := false } rest
  | ['-', 'O', _] :: rest => startsOf s rest
  | ['-', '-'] :: rest => (s, rest)
  | args => (s, args)

/-- Do something about the files below starting places. -/
def run : Action := fun args => do
  let (settings, args) := startsOf {} args
  let starts := args.takeWhile fun a => !startsExpression a
  let conditions := args.drop starts.length
  let m ← get
  match (items m (conditions.length + 1) none conditions).run settings with
  | .error lines =>
    for l in lines do complain "find" l
    return 1
  | .ok (is, s) =>
    for i in is do
      match i with
      | .leaf (.deed (.format _ text)) => for l in formatWarnings text do complain "find" l
      | _ => pure ()
    match expression is with
    | .error why =>
      complain "find" why
      return 1
    | .ok e =>
      let print : Expression := .deed (.print none ['\n'])
      let e := match e with
        | none => print
        | some e => if s.acts then e else .and e print
      let mut progress : Progress := {}
      for start in if starts.isEmpty then [['.']] else starts do
        let d := (← get).disk
        let found := if s.followsStarts then
            (match d.resolve (pathOf start) with
            | .ok loc => .ok loc
            | .error _ => d.locateSelf (pathOf start))
          else d.locateSelf (pathOf start)
        match found with
        | .error e =>
          complain "find" (quoted start ++ ": ".toList ++ (reasonOf e).toList)
          progress := { progress with failed := true }
        | .ok location =>
          let bound := d.entries.length + 2
          let (_, p) ← (visit call s e bound ⟨start, start, location, 0⟩).run progress
          progress := p
      for (number, command) in gathers e do
        let paths := (progress.gathered.reverse.filter fun g => g.1 = number).map (·.2)
        if !paths.isEmpty then
          match ← runIn call none (command ++ paths) with
          | some 0 => pure ()
          | _ => progress := { progress with failed := true }
      return if progress.failed then 1 else 0

end

end BulkSuppress.Shell.Utility.Find
