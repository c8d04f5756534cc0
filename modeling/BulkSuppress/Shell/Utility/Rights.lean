import BulkSuppress.Shell.Utility.Directories

/-
  Changing the rights of files. A mode can look like an option, if it takes rights away. Directories
  are changed before what they hold; links inside them are left alone.
-/

namespace BulkSuppress.Shell.Utility.Rights

/-- What is told about changes. -/
inductive Telling where
  | nothing
  | changes
  | everything
deriving DecidableEq, Repr

/-- How rights are changed. -/
structure Manner where
  changes : List RightsChange
  recursive : Bool := false
  telling : Telling := .nothing
  silent : Bool := false
  /-- What is kept back from all users is told, if it makes a difference. -/
  surprises : Bool := false
  sparesRoot : Bool := false

/-- Rights as digits and letters. -/
def shown (mode : Nat) : Octets :=
  let ds := Nat.toDigits 8 mode
  List.replicate (4 - ds.length) '0' ++ ds ++ " (".toList ++ rights mode ++ [')']

/-- Complain, unless nothing is to be told. -/
def refuse (q : Manner) (cs : Octets) : Run Bool := do
  if !q.silent then complain "chmod" cs
  return false

/-- Change the rights of what is at a location. -/
def change (q : Manner) (path : Octets) (loc : Location) : Run Bool := do
  let m ← get
  let isDirectory := m.disk.isDirectoryAt loc
  let before := m.modeAt loc
  let after := RightsChange.appliedAll q.changes isDirectory m.mask before
  set (m.withMode loc after)
  let told := match q.telling with
    | .nothing => false
    | .changes => before ≠ after
    | .everything => true
  if told then
    Run.write ("mode of ".toList ++ shellQuoted path ++
      (if before = after then " retained as ".toList ++ shown after
        else " changed from ".toList ++ shown before ++ " to ".toList ++ shown after) ++ ['\n'])
  let naive := RightsChange.appliedAll q.changes isDirectory 0 before
  if q.surprises && naive ≠ after && (after ^^^ (after &&& naive)) ≠ 0 then
    complain "chmod" (shownName path ++ ": new permissions are ".toList ++ rights after ++
      ", not ".toList ++ rights naive)
    return false
  return true

/-- Change the rights of what is in a directory; the bound is on directories inside directories. -/
def changeInside (q : Manner) : (depth : Nat) → (path : Octets) → Location → Run Bool
  | 0, _, _ => return true
  | depth + 1, path, loc => do
    let mut fine := true
    for name in (← get).disk.children loc do
      let inside := loc ++ [name]
      let path := inDirectory path (Octets.ofText name)
      match (← get).disk.entryAt? inside with
      | some (.link _) =>
        if q.telling = .everything then
          Run.write ("neither symbolic link ".toList ++ shellQuoted path ++
            " nor referent has been changed\n".toList)
      | some e =>
        if !(← change q path inside) then fine := false
        if e matches .directory then
          if !(← changeInside q depth path inside) then fine := false
      | none => pure ()
    return fine

/-- Change the rights of an operand. -/
def changeOperand (q : Manner) (path : Octets) : Run Bool := do
  let m ← get
  match m.disk.resolve (pathOf path) with
  | .error e =>
    let isLink := m.disk.selfAt? (pathOf path) matches some (.link _)
    let _ ← if isLink && e = .notFound then
        refuse q ("cannot operate on dangling symlink ".toList ++ shellQuoted path)
      else
        refuse q ("cannot access ".toList ++ shellQuoted path ++ ": ".toList ++
          (reasonOf e).toList)
    if q.telling = .everything then
      Run.write (shellQuoted path ++ " could not be accessed\n".toList)
    return false
  | .ok loc =>
    if q.recursive && q.sparesRoot && loc = [] then
      let same := if path = ['/'] then [] else " (same as '/')".toList
      complain "chmod" ("it is dangerous to operate recursively on ".toList ++ shellQuoted path ++
        same)
      complain "chmod" "use --no-preserve-root to override this failsafe".toList
      return false
    let fine ← change q path loc
    if q.recursive && m.disk.isDirectoryAt loc then
      return (← changeInside q (m.disk.entries.length + 2) path loc) && fine
    else return fine

/-! ## Arguments -/

/-- The options. -/
def options : Options :=
  { name := "chmod", letters := "Rcfvρ:κπ"
    longs := [("changes", 'c'), ("recursive", 'R'), ("no-preserve-root", 'κ'),
      ("preserve-root", 'π'), ("quiet", 'f'), ("reference", 'ρ'), ("silent", 'f'),
      ("verbose", 'v')] }

/-- An argument is a mode that looks like an option. -/
def isMode (a : Octets) : Bool :=
  match a with
  | '-' :: c :: _ => "rwxXstugoa,+=01234567".toList.contains c
  | _ => false

/-- The arguments with the modes among them taken out, as far as options are read. -/
def modesIn (args : List Octets) : List Octets × List Octets :=
  let read := args.takeWhile (· ≠ "--".toList)
  (read.filter isMode, (read.filter fun a => !isMode a) ++ args.drop read.length)

/-- Change the rights of files. -/
def run : Action := fun args => do
  let (modes, rest) := modesIn args
  withOptions options rest fun choices operands => do
    let reference := valueOf? choices "ρ"
    let (mode, files) : Option Octets × List Octets :=
      if reference.isSome then (none, operands)
      else if !modes.isEmpty then (some (Octets.join [','] modes), operands)
      else (operands.head?, operands.drop 1)
    if !modes.isEmpty && reference.isSome then
      complain "chmod" "cannot combine mode and --reference options".toList
      hint "chmod"
      return 1
    if files.isEmpty then
      match if modes.isEmpty then mode else none with
      | some cs => complain "chmod" ("missing operand after ".toList ++ quoted cs)
      | none => complain "chmod" "missing operand".toList
      hint "chmod"
      return 1
    let telling := match (choices.filter fun c => "cv".toList.contains c.letter).getLast? with
      | some c => if c.letter = 'c' then Telling.changes else .everything
      | none => .nothing
    let root := (choices.filter fun c => "κπ".toList.contains c.letter).getLast?
    let q : Manner :=
      { changes := [], recursive := chosen choices "R", telling, silent := chosen choices "f"
        surprises := !modes.isEmpty, sparesRoot := root.any fun c => c.letter = 'π' }
    let m ← get
    let changes : Except Octets (List RightsChange) := match reference, mode with
      | some cs, _ =>
        match m.disk.resolve (pathOf cs) with
        | .ok loc =>
          .ok [{ sign := '=', concerned := allRights, value := m.modeAt loc, named := allRights }]
        | .error e => .error ("failed to get attributes of ".toList ++ shellQuoted cs ++
            ": ".toList ++ (reasonOf e).toList)
      | none, some cs =>
        match RightsChange.ofMode? cs with
        | some changes => .ok changes
        | none => .error ("invalid mode: ".toList ++ quoted cs)
      | none, none => .ok []
    match changes with
    | .error why =>
      complain "chmod" why
      if reference.isNone then hint "chmod"
      return 1
    | .ok changes =>
      let mut status := 0
      for cs in files do
        if !(← changeOperand { q with changes } cs) then status := 1
      return status

end BulkSuppress.Shell.Utility.Rights
