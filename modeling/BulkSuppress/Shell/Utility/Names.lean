import BulkSuppress.Shell.Utility.Arguments

/-
  Names that utilities deal with. Of a path as operand it is the last name, what stands in front of
  it, and a name in a directory; the utilities that write such parts of paths look at texts alone,
  not at the disk. Utilities that change files also keep something under another name before they
  replace it, and ask questions that are answered on the input.
-/

namespace BulkSuppress.Shell.Utility

/-- The path that octets spell. -/
def pathOf (cs : Octets) : Path := ⟨Octets.toText cs⟩

/-- A path in a directory. -/
def inDirectory (dir name : Octets) : Octets :=
  if dir.getLast? = some '/' then dir ++ name else dir ++ ['/'] ++ name

/-- A path without the slashes behind it. -/
def withoutSlashes (cs : Octets) : Octets := (cs.reverse.dropWhile (· = '/')).reverse

/-- The last name of a path. -/
def lastName (cs : Octets) : Octets :=
  let trimmed := withoutSlashes cs
  if trimmed.isEmpty then (if cs.isEmpty then [] else ['/'])
  else ((trimmed.reverse.takeWhile (· ≠ '/')).reverse)

/-- What stands in front of the last name of a path. -/
def directoryName (cs : Octets) : Octets :=
  let trimmed := withoutSlashes cs
  let front := (trimmed.reverse.dropWhile (· ≠ '/')).reverse
  if trimmed.isEmpty then (if cs.isEmpty then ['.'] else ['/'])
  else if front.isEmpty then ['.']
  else
    let dir := withoutSlashes front
    if dir.isEmpty then ['/'] else dir

/-- A name without a suffix, unless it is nothing else. -/
def withoutSuffixText (suffix cs : Octets) : Octets :=
  if suffix.length < cs.length && suffix.isSuffixOf cs then cs.take (cs.length - suffix.length)
  else cs

/-- The path goes no further than to a directory on the way to it. -/
def endsInDots (cs : Octets) : Bool :=
  let name := lastName cs
  name = ['.'] || name = ['.', '.']

/-- Complain that there are no operands. -/
def missingOperand (name : String) : Run Nat := do
  complain name "missing operand".toList
  hint name
  return 1

/-- Complain that there is an operand too many. -/
def extraOperand (name : String) (shown : Octets) : Run Nat := do
  complain name ("extra operand ".toList ++ shown)
  hint name
  return 1

/-- What ends a result: a line, or a zero if that is asked for. -/
def resultEnd (choices : List Choice) : Octets := if chosen choices "z" then ['\x00'] else ['\n']

/-- Write last names. -/
def basename : Action := fun args =>
  withOptions { name := "basename", letters := "as:z", inFront := true
                longs := [("multiple", 'a'), ("suffix", 's'), ("zero", 'z')] } args
    fun choices operands => do
    let write (suffix cs : Octets) : Run Unit :=
      Run.write (withoutSuffixText suffix (lastName cs) ++ resultEnd choices)
    match operands with
    | [] => missingOperand "basename"
    | first :: rest =>
      if chosen choices "as" then
        for cs in operands do write ((valueOf? choices "s").getD []) cs
        return 0
      else
        match rest with
        | [] =>
          write [] first
          return 0
        | [suffix] =>
          write suffix first
          return 0
        | _ :: extra :: _ => extraOperand "basename" (quoted extra)

/-- Write what stands in front of last names. -/
def dirname : Action := fun args =>
  withOptions { name := "dirname", letters := "z", longs := [("zero", 'z')] } args
    fun choices operands => do
    if operands.isEmpty then missingOperand "dirname"
    else
      for cs in operands do Run.write (directoryName cs ++ resultEnd choices)
      return 0

/-! ## Questions, and what is kept -/

/-- Ask something; a line of the input that starts with the letter y means yes. -/
def asks (utility : String) (question : Octets) : Run Bool := do
  let _ ← Run.writeTo 2 ((← calledName utility) ++ ": ".toList ++ question ++ "? ".toList)
  match (← get).channel? 0 with
  | some (n, _) =>
    let cs := (← get).unread n
    let line := cs.takeWhile (· ≠ '\n')
    modify (·.afterReading n (min cs.length (line.length + 1)))
    return line.head?.any fun c => c = 'y' || c = 'Y'
  | none => return false

/-- How a kind of file is called. -/
def kindName : Entry → Octets
  | .file content _ => (if content.size = 0 then "regular empty file" else "regular file").toList
  | .directory => "directory".toList
  | .link _ => "symbolic link".toList
  | .nullDevice => "character special file".toList

/-! ## What is kept before it is replaced -/

/-- How the name is made under which something is kept. -/
inductive Keeping where
  /-- Nothing is kept. -/
  | nothing
  /-- A suffix is put behind the name. -/
  | simple
  /-- A number is put behind the name, if there is something of that name with a number. -/
  | existing
  | numbered
deriving DecidableEq, Repr

namespace Keeping

/-- The names of the ways. -/
def names : List (List String × Keeping) :=
  [(["none", "off"], .nothing), (["simple", "never"], .simple), (["existing", "nil"], .existing),
    (["numbered", "t"], .numbered)]

/-- The greatest number behind a name in a directory. -/
def lastNumber (d : Disk) (path : Octets) : Nat :=
  let name := lastName path
  let beside := match d.resolve (pathOf (directoryName path)) with
    | .ok loc => (d.children loc).map Octets.ofText
    | .error _ => []
  let number? (cs : Octets) : Option Nat :=
    let mark := name ++ ".~".toList
    if mark.isPrefixOf cs && cs.getLast? = some '~' then decimal? (cs.drop mark.length).dropLast
    else none
  (beside.filterMap number?).foldl max 0

/-- The name under which something is kept. -/
def nameFor (k : Keeping) (suffix : Octets) (d : Disk) (path : Octets) : Octets :=
  let numbered : Octets :=
    path ++ ".~".toList ++ decimal (lastNumber d path + 1) ++ ['~']
  match k with
  | .numbered => numbered
  | .existing => if lastNumber d path ≠ 0 then numbered else path ++ suffix
  | .nothing | .simple => path ++ suffix

end Keeping

/--
What the options say about keeping: nothing, unless a letter or a suffix asks for it. The answer is
missing if there was a complaint.
-/
def keepingOf (utility : String) (choices : List Choice) : Run (Option (Keeping × Octets)) := do
  let m ← get
  let given := (valueOf? choices "S").or (m.environment.lookup "SIMPLE_BACKUP_SUFFIX")
  let suffix := match given with
    | some cs => if cs.isEmpty || cs.contains '/' then ['~'] else cs
    | none => ['~']
  if !chosen choices "bSδ" then return some (.nothing, suffix)
  else
    let named := (choices.filter fun c => c.letter = 'δ' && !c.value.isEmpty).getLast?
    match named, m.environment.lookup "VERSION_CONTROL" with
    | some c, _ => return (← namedValue? utility "backup type" Keeping.names c.value).map (·, suffix)
    | none, some (c :: cs) =>
      return (← namedValue? utility "$VERSION_CONTROL" Keeping.names (c :: cs)).map (·, suffix)
    | none, _ => return some (.existing, suffix)

end BulkSuppress.Shell.Utility
