import BulkSuppress.Shell.Utility.Grep.Search

/-
  Looking for lines in files. The patterns come from options, from files or from the first operand;
  directories can be looked through with all that is below them.
-/

namespace BulkSuppress.Shell.Utility.Grep

/-! ## Options -/

/-- How patterns are written. -/
inductive Writing where
  | basic
  | extended
  /-- Every octet stands for itself. -/
  | fixed
  | backtracking
deriving DecidableEq, Repr

/-- The lines that say how the utility is used. -/
def usageLines : List String := ["Usage: grep [OPTION]... PATTERNS [FILE]..."]

/-- The options; those without a letter of ASCII have long names only. -/
def spec : Options where
  name := "grep"
  letters := "0123456789A:B:C:D:EFGHILPTUVX:abcd:e:f:hiLlm:noqRrsuvwxyZzΒ:κ::ξ:Ξ:χ:γ:Γι:Νλ:β"
  failure := 2
  usage := usageLines
  longs := [("basic-regexp", 'G'), ("extended-regexp", 'E'), ("fixed-regexp", 'F'),
    ("fixed-strings", 'F'), ("perl-regexp", 'P'), ("after-context", 'A'),
    ("before-context", 'B'), ("binary-files", 'Β'), ("byte-offset", 'b'), ("context", 'C'),
    ("color", 'κ'), ("colour", 'κ'), ("count", 'c'), ("devices", 'D'), ("directories", 'd'),
    ("exclude", 'ξ'), ("exclude-from", 'Ξ'), ("exclude-dir", 'χ'), ("file", 'f'),
    ("files-with-matches", 'l'), ("files-without-match", 'L'), ("group-separator", 'γ'),
    ("help", Options.helpLetter), ("include", 'ι'), ("ignore-case", 'i'),
    ("no-ignore-case", 'Ν'), ("initial-tab", 'T'), ("label", 'λ'), ("line-buffered", 'β'),
    ("line-number", 'n'), ("line-regexp", 'x'), ("max-count", 'm'), ("no-filename", 'h'),
    ("no-group-separator", 'Γ'), ("no-messages", 's'), ("null", 'Z'), ("null-data", 'z'),
    ("only-matching", 'o'), ("quiet", 'q'), ("recursive", 'r'), ("dereference-recursive", 'R'),
    ("regexp", 'e'), ("invert-match", 'v'), ("silent", 'q'), ("text", 'a'), ("binary", 'U'),
    ("unix-byte-offsets", 'u'), ("version", Options.versionLetter), ("with-filename", 'H'),
    ("word-regexp", 'w')]

/-- Say how lines are looked for. -/
def usage : Run Nat := do
  for l in usageLines do Run.complain l.toList
  Run.complain "Try 'grep --help' for more information.".toList
  return 2

/-- The number of lines that a text spells; one that is too large counts as a very large one. -/
def lineCount? (cs : Octets) : Option Nat :=
  let blank (c : Char) : Bool := c = ' ' || ('\t' ≤ c && c ≤ '\r')
  (decimal? (cs.dropWhile blank)).map (min 9223372036854775807)

/-- The number of lines that digits among the options spell, if there are such. -/
def bareCount? (choices : List Choice) : Option Nat :=
  let digits := (choices.filter fun c => isDigit c.letter).map (·.letter)
  if digits.isEmpty then none else some (numberIn 10 digits)

/-- The numbers of lines around selected ones: in general, in front and behind. -/
structure Around where
  general : Option Nat := none
  before : Option Nat := none
  after : Option Nat := none

/-- The numbers of lines that options ask for, or a value that is none. -/
def around (choices : List Choice) : Except Octets Around := do
  let base : Around := { general := bareCount? choices }
  choices.foldlM (fun a c => do
    if !(['A', 'B', 'C'].contains c.letter) then return a
    let some n := lineCount? c.value | throw c.value
    match c.letter with
    | 'A' => return { a with after := some n }
    | 'B' => return { a with before := some n }
    | _ => return { a with general := some n }) base

/-! ## Files -/

/-- A pattern that names of files match or not. -/
structure NamePattern where
  parts : List PatternPart
  /-- Files that match are looked through, others are not. -/
  includes : Bool := false

/-- The pattern that a text spells, where a backslash quotes what follows it. -/
def NamePattern.ofText (includes : Bool) (cs : Octets) : NamePattern :=
  ⟨textParts cs, includes⟩

/-- A name, or what is behind one of its slashes. -/
def suffixes (name : Octets) : List Octets :=
  name :: ((ends name).filter fun cs => cs.head? = some '/').map (·.drop 1)

/-- A file is left out. The last pattern that matches counts; if there is none, it is the opposite
of the first one. -/
def isLeftOut (patterns : List NamePattern) (names : List Octets) : Bool :=
  match patterns.reverse.find? fun p => names.any (isMatch p.parts) with
  | some p => !p.includes
  | none => patterns.head?.any (·.includes)

/-- What is done with files and directories. -/
structure Selection where
  recursive : Bool := false
  /-- Links that are found are followed. -/
  follows : Bool := false
  skipsDirectories : Bool := false
  files : List NamePattern := []
  directories : List NamePattern := []

/-- The files below a location, in order, with the paths that lead to them. -/
def Selection.below (s : Selection) (d : Disk) : Nat → Location → Octets → List Octets
  | 0, _, _ => []
  | n + 1, loc, path =>
    (d.children loc).flatMap fun child =>
      let name := Octets.ofText child
      let inner := path ++ (if path.isEmpty || path.getLast? = some '/' then [] else ['/']) ++ name
      let enter (loc : Location) : List Octets :=
        if isLeftOut s.directories [name] then [] else s.below d n loc inner
      let file : List Octets := if isLeftOut s.files [name] then [] else [inner]
      match d.entryAt? (loc ++ [child]) with
      | some .directory => enter (loc ++ [child])
      | some (.file ..) => file
      | some (.link _) =>
        if !s.follows then []
        else match d.resolve ⟨Octets.toText inner⟩ with
          | .ok target => if d.isDirectoryAt target then enter target else file
          | .error _ => file
      | _ => []

/-- The files that an operand stands for. -/
def Selection.filesOf (s : Selection) (d : Disk) (file : Octets) : List Octets :=
  match d.resolve ⟨Octets.toText file⟩ with
  | .ok loc =>
    if file ≠ ['-'] && d.isDirectoryAt loc then
      let bare := (file.reverse.dropWhile (· = '/')).reverse
      if s.skipsDirectories || isLeftOut s.directories (suffixes bare) then []
      else if s.recursive then s.below d (d.entries.length + 1) loc file
      else [file]
    else if file ≠ ['-'] && isLeftOut s.files (suffixes file) then []
    else [file]
  | .error _ => [file]

/-- The names of what to do with directories. -/
def directoryWays : List (List String × Nat) :=
  [(["read"], 0), (["recurse"], 1), (["skip"], 2)]

/-- The names of when to write in color, and whether that is so here. -/
def colorWays : List (String × Bool) :=
  [("always", true), ("yes", true), ("force", true), ("never", false), ("no", false),
    ("none", false), ("auto", false), ("tty", false), ("if-tty", false)]

/-! ## Running -/

/-- The lines of a text. -/
def patternLines (cs : Octets) : List Octets := (Octets.lines cs).1

/-- The texts of the patterns, or none if they cannot be read. -/
def patternTexts (choices : List Choice) : Run (Option (List Octets)) := do
  let mut texts : List Octets := []
  for c in choices do
    if c.letter = 'e' then texts := texts ++ Text.pieces '\n' c.value
    else if c.letter = 'f' then
      match ← contentOf c.value with
      | .ok cs => texts := texts ++ patternLines cs
      | .error e =>
        complainAbout "grep" c.value e
        return none
  return some texts

/-- What lines are matched with, and what there is to warn of. -/
def matcher (writing : Writing) (folds : Bool) (texts : List Octets) :
    Except String (Matcher × List String) := do
  match writing with
  | .backtracking =>
    match texts with
    | [] => return (.patterns [], [])
    | [cs] => return (.backtracking (← Backtracking.parse folds cs), [])
    | _ => throw "the -P option only supports a single pattern"
  | .fixed => return (.patterns (texts.map literal), [])
  | _ =>
    let dialect : Regex.Dialect := {
      extended := writing = .extended, looseBounds := writing = .extended
      confusing := true, warns := true }
    let parsed ← texts.mapM (Regex.parseWarned dialect)
    return (.patterns (parsed.map (·.1)), parsed.flatMap (·.2))

/-- Search the input, and leave what is behind the last line that was to be selected. -/
def searchInput (q : Request) (found : Bool) (file : Octets) : Run Bool := do
  match (← get).channel? 0 with
  | some (n, .file _ _ _) =>
    let cs := (← get).unread n
    modify (·.afterReading n (q.readLength cs))
    q.answer found file cs
  | _ => q.answer found file (← Run.readAll)

/-- Look for lines in files. -/
def search (q : Request) (files : List Octets) : Run Nat := do
  let mut found := false
  let mut failed := false
  for file in files do
    if !(q.quiet && found) then
      let content ← if file = ['-'] then
          match (← get).channel? 0 with
          | some (_, .file loc _ _) =>
            pure (if (← get).disk.isDirectoryAt loc then .error .isDirectory else .ok [])
          | some _ => pure (.ok [])
          | none => pure (.error (.code 9))
        else contentOf file
      match content with
      | .ok cs =>
        found := ← (if file = ['-'] then searchInput q found file else q.answer found file cs)
      | .error e =>
        failed := true
        if !q.silent then complainAbout "grep" (if file = ['-'] then q.label else file) e
  return if found && (q.quiet || !failed) then 0 else if failed then 2 else 1

/-- Complain about an option. -/
def complaint (why : String) : Run Nat := do
  complain "grep" why.toList
  return 2

/-- The patterns for names that options give, or none if they cannot be read. -/
def namePatterns (choices : List Choice) : Run (Option (List NamePattern)) := do
  let mut patterns : List NamePattern := []
  for c in choices do
    match c.letter with
    | 'ξ' => patterns := patterns ++ [.ofText false c.value]
    | 'ι' => patterns := patterns ++ [.ofText true c.value]
    | 'Ξ' =>
      match ← contentOf c.value with
      | .ok cs =>
        patterns := patterns ++ ((patternLines cs).filter (!·.isEmpty)).map (.ofText false)
      | .error e =>
        complainAbout "grep" c.value e
        return none
    | _ => pure ()
  return some patterns

/-- The way to deal with directories that options ask for, unless it makes no sense. -/
def directoryWay (choices : List Choice) : Run (Option Nat) := do
  let mut way := 0
  for c in choices do
    match c.letter with
    | 'd' =>
      match directoryWays.find? fun w => w.1.any fun n => c.value.isPrefixOf n.toList with
      | some (_, n) => way := n
      | none =>
        complain "grep" ("invalid argument ".toList ++ quoted c.value ++
          " for '--directories'".toList)
        Run.complain "Valid arguments are:".toList
        for (names, _) in directoryWays do
          Run.complain ("  - ".toList ++ Octets.join [] (names.map fun n => quoted n.toList))
        let _ ← usage
        return none
    | 'r' | 'R' => way := 1
    | _ => pure ()
  return some way

/-- Look for lines, where patterns are written in some way if options do not say otherwise. -/
def run (writing : Writing) : Action := fun args =>
  withOptions spec args fun choices operands => do
    let has := chosen choices
    if has "V" then
      Run.write ((about? "grep" "grep").getD "").toList
      return 0
    let writing := (choices.filterMap fun c => match c.letter with
      | 'E' => some Writing.extended
      | 'F' => some .fixed
      | 'G' => some .basic
      | 'P' => some .backtracking
      | _ => none).getLast?.getD writing
    let .ok near := around choices
      | do
        let bad := match around choices with
          | .error cs => cs
          | .ok _ => []
        complain "grep" (bad ++ ": invalid context length argument".toList)
        return 2
    let colorWay := (valueOf? choices "κ").map fun v =>
      if v.isEmpty then some false else colorWays.lookup (String.ofList v)
    let binaryWay := valueOf? choices "Β"
    if colorWay = some none then return ← usage
    if (valueOf? choices "D").any fun v => !(["read".toList, "skip".toList].contains v) then
      return ← complaint "unknown devices method"
    if (valueOf? choices "m").any fun v => (lineCount? v).isNone then
      return ← complaint "invalid max count"
    if binaryWay.any fun v =>
        !(["binary".toList, "text".toList, "without-match".toList].contains v) then
      return ← complaint "unknown binary-files type"
    if has "u" then complain "grep" "warning: --unix-byte-offsets (-u) is obsolete".toList
    let some way ← directoryWay choices | return 2
    let some names ← namePatterns choices | return 2
    let some given ← patternTexts choices | return 2
    let byOption := has "ef"
    if !byOption && operands.isEmpty then return ← usage
    let texts := if byOption then given else Text.pieces '\n' (operands.head?.getD [])
    let files := if byOption then operands else operands.drop 1
    let recursive := way = 1
    let caseChoice := ((choices.filter fun c => ['i', 'y', 'Ν'].contains c.letter).getLast?).map
      (·.letter)
    let foldsCase := caseChoice.any (· ≠ 'Ν')
    match matcher writing foldsCase texts with
    | .error why => complaint why
    | .ok (matcher, warnings) =>
      for w in warnings do complain "grep" ("warning: ".toList ++ w.toList)
      if (valueOf? choices "m").bind lineCount? = some 0 then return 1
      let selection : Selection := {
        recursive, follows := has "R", skipsDirectories := way = 2, files := names
        directories := (choices.filter fun c => c.letter = 'χ').map fun c =>
          .ofText false (c.value.reverse.dropWhile (· = '/')).reverse }
      let d := (← get).disk
      let all ← if files.isEmpty && recursive then
          pure (match d.resolve ⟨"."⟩ with
            | .ok loc => selection.below d (d.entries.length + 1) loc []
            | .error _ => [])
        else pure ((if files.isEmpty then [['-']] else files).flatMap (selection.filesOf d))
      let nameChoice := (choices.filter fun c => c.letter = 'H' || c.letter = 'h').getLast?
      let usesAsText := has "a" || binaryWay = some "text".toList
      search {
        matcher, foldsCase
        inverted := has "v"
        wholeLine := has "x"
        wholeWord := has "w"
        quiet := has "q"
        silent := has "s"
        counts := has "c"
        numbers := has "n"
        offsets := has "b"
        onlyMatches := has "o"
        listsFiles := has "l"
        listsOthers := has "L"
        named := match nameChoice with
          | some c => c.letter = 'H'
          | none => 1 < files.length || (recursive &&
              (files.isEmpty || files.any fun f => (selection.filesOf d f) ≠ [f]))
        nameEnd := if has "Z" then some '\x00' else none
        most := (valueOf? choices "m").bind lineCount?
        before := near.before.orElse fun _ => near.general
        after := near.after.orElse fun _ => near.general
        parting := if has "Γ" then none else some ((valueOf? choices "γ").getD ['-', '-'])
        lineEnd := if has "z" then '\x00' else '\n'
        readsBinary := usesAsText
        skipsBinary := has "I" || binaryWay = some "without-match".toList
        colored := colorWay = some (some true)
        aligned := has "T"
        label := (valueOf? choices "λ").getD "(standard input)".toList } all

end BulkSuppress.Shell.Utility.Grep
