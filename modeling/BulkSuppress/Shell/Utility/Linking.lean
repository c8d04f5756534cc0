import BulkSuppress.Shell.Utility.Place
import BulkSuppress.Shell.Utility.Resolve

/-
  Making links: other names for files, and links that lead somewhere by a path. A link is made first
  of all; only if something is in its place, that is removed, kept or asked about.
-/

namespace BulkSuppress.Shell.Utility.Linking

/-- How links are made. -/
structure Manner where
  symbolic : Bool := false
  /-- What is in the place is removed. -/
  forces : Bool := false
  asks : Bool := false
  /-- Links to files that links lead to, not to these links. -/
  follows : Bool := false
  /-- A link that is a directory is a place, not a directory. -/
  staysOnLink : Bool := false
  /-- Links lead to their targets from where they are. -/
  relative : Bool := false
  verbose : Bool := false
  keeping : Keeping := .nothing
  suffix : Octets := ['~']

/-- Make a link at a place. -/
def made (q : Manner) (source place : Octets) (m : Machine) : Except SystemError Machine := do
  if q.symbolic then
    if source.isEmpty then .error .notFound else m.makeLink (pathOf place) (pathOf source)
  else
    let loc ← if q.follows then m.disk.resolve (pathOf source) else m.disk.locateSelf (pathOf source)
    m.linkFile loc (pathOf place)

/-- The path to a target from the directory that a place is in. -/
def relativePath (d : Disk) (source place : Octets) : Octets :=
  match plain .nothing d (pathOf (directoryName place)), plain .nothing d (pathOf source) with
  | .ok dir, .ok loc => pathBetween dir loc
  | _, _ => source

/-- Complain, and tell that something went wrong. -/
def refuse (cs : Octets) : Run Bool := do
  complain "ln" cs
  return false

/-- Complain that a link could not be made. -/
def unmade (q : Manner) (source place : Octets) (e : SystemError) : Run Bool :=
  let paths := Placing.both place (if q.symbolic then " -> " else " => ") source
  let isShort := [.alreadyExists, .code 28, .code 30].contains e
  let what : Octets :=
    if q.symbolic then
      "failed to create symbolic link ".toList ++
        (if e = .nameTooLong || source.isEmpty then paths else shellQuoted place)
    else
      "failed to create hard link ".toList ++ (if isShort then shellQuoted place else paths)
  refuse (what ++ ": ".toList ++ (reasonOf e).toList)

/-- Tell which link has been made. -/
def tell (q : Manner) (source place : Octets) (kept : Option Octets) : Run Unit :=
  let backup := kept.elim [] fun cs => shellQuoted cs ++ " ~ ".toList
  Run.write (backup ++ Placing.both place (if q.symbolic then " -> " else " => ") source ++ ['\n'])

/-- What is done about something in the place of a link. -/
inductive Clearing where
  | cleared (kept : Option Octets)
  | refused (isFine : Bool)

/-- Make room for a link. -/
def clear (q : Manner) (made' : List Location) (source place : Octets) : Run Clearing := do
  let m ← get
  let no (cs : Octets) : Run Clearing := return .refused (← refuse cs)
  match Placing.lookAt m true place with
  | .error .notFound => return .cleared none
  | .error e =>
    no ("failed to access ".toList ++ shellQuoted place ++ ": ".toList ++ (reasonOf e).toList)
  | .ok (_, .directory) => no (shownName place ++ ": cannot overwrite directory".toList)
  | .ok (loc, _) =>
    if made'.contains loc then
      return ← no ("will not overwrite just-created ".toList ++ Placing.both place " with " source)
    let own := if q.symbolic || q.follows then (m.disk.resolve (pathOf source)).toOption
      else (m.disk.locateSelf (pathOf source)).toOption
    let itself := (m.disk.locateSelf (pathOf source)).toOption
    let names := own.elim [] m.attributes.namesOf
    if (q.keeping = .nothing || !q.symbolic) && names.contains loc &&
        (names.length = 1 || itself = some loc) then
      return ← no (Placing.both source " and " place ++ " are the same file".toList)
    if q.asks then
      if !(← Utility.asks "ln" ("replace ".toList ++ shellQuoted place)) then return .refused true
    if q.keeping ≠ .nothing then
      let name := q.keeping.nameFor q.suffix m.disk place
      match m.rename (pathOf place) (pathOf name) with
      | .ok m =>
        set m
        return .cleared (some name)
      | .error e =>
        no ("cannot backup ".toList ++ shellQuoted place ++ ": ".toList ++ (reasonOf e).toList)
    else return .cleared none

/-- Make a link, in a place that may have to be cleared. -/
def link (q : Manner) (made' : List Location) (source place : Octets) : Run Bool := do
  let m ← get
  let early := if q.relative then none else some (made q source place m)
  match early with
  | some (.ok m) =>
    set m
    if q.verbose then tell q source place none
    return true
  | early =>
    let own := Placing.lookAt m (!q.follows) source
    if !q.symbolic then
      match own with
      | .error e =>
        return ← refuse ("failed to access ".toList ++ shellQuoted source ++ ": ".toList ++
          (reasonOf e).toList)
      | .ok (_, .directory) =>
        return ← refuse (shownName source ++ ": hard link not allowed for directory".toList)
      | .ok _ => pure ()
    let source := if q.relative then relativePath m.disk source place else source
    let mayClear := q.forces || q.asks || q.keeping ≠ .nothing
    let cleared ← if mayClear then clear q made' source place else pure (Clearing.cleared none)
    match cleared with
    | .refused isFine => return isFine
    | .cleared kept =>
      let isTaken := (early.all fun r => r matches .error .alreadyExists) && mayClear
      let m ← get
      let freed := if isTaken then (m.removeFile (pathOf place)).toOption.getD m else m
      match made q source place freed with
      | .ok m =>
        set m
        if q.verbose then tell q source place kept
        return true
      | .error e => unmade q source place e

/-! ## Operands -/

/-- The options. -/
def options : Options :=
  { name := "ln", letters := "bdfinrst:vFLPS:Tδ::"
    longs := [("backup", 'δ'), ("directory", 'F'), ("no-dereference", 'n'),
      ("no-target-directory", 'T'), ("force", 'f'), ("interactive", 'i'), ("suffix", 'S'),
      ("target-directory", 't'), ("logical", 'L'), ("physical", 'P'), ("relative", 'r'),
      ("symbolic", 's'), ("verbose", 'v')] }

/-- Why a path is no directory for links. -/
def directoryProblem? (q : Manner) (d : Disk) (path : Octets) : Option SystemError :=
  match d.selfAt? (pathOf path) with
  | some (.link _) =>
    if q.staysOnLink then some .notDirectory else Placing.directoryProblem? d path
  | _ => Placing.directoryProblem? d path

/-- The directory in which links are made, if they are, and the operands to which they lead. -/
def destination (q : Manner) (choices : List Choice) (operands : List Octets) :
    Run (Except Nat (Option Octets × List Octets)) := do
  let complainWith (cs : Octets) (hints : Bool) : Run (Except Nat (Option Octets × List Octets)) := do
    complain "ln" cs
    if hints then hint "ln"
    return .error 1
  let m ← get
  let directory := valueOf? choices "t"
  let problem := directory.bind fun dir => (Placing.directoryProblem? m.disk dir).map (dir, ·)
  match problem, operands with
  | some (dir, e), _ =>
    if e = .notDirectory then
      complainWith ("target ".toList ++ shellQuoted dir ++ " is not a directory".toList) false
    else
      complainWith ("failed to access ".toList ++ shellQuoted dir ++ ": ".toList ++
        (reasonOf e).toList) false
  | none, [] => complainWith "missing file operand".toList true
  | none, first :: rest =>
    if q.relative && !q.symbolic then
      complainWith "cannot do --relative without --symbolic".toList false
    else if chosen choices "T" then
      if directory.isSome then
        complainWith "cannot combine --target-directory and --no-target-directory".toList false
      else
        match rest with
        | [] =>
          complainWith ("missing destination file operand after ".toList ++ shellQuoted first) true
        | _ :: extra :: _ => complainWith ("extra operand ".toList ++ shellQuoted extra) true
        | [_] => return .ok (none, operands)
    else
      match directory, rest with
      | none, [] => return .ok (some ['.'], operands)
      | none, [place] =>
        let isMade := !q.relative && (made q first place m matches .ok _)
        if !isMade && (directoryProblem? q m.disk place).isNone then
          return .ok (some place, [first])
        else return .ok (none, operands)
      | _, _ =>
        let dir := directory.getD (rest.getLast?.getD first)
        match directoryProblem? q m.disk dir with
        | none => return .ok (some dir, if directory.isSome then operands else operands.dropLast)
        | some e =>
          complainWith ("target ".toList ++ shellQuoted dir ++ ": ".toList ++ (reasonOf e).toList)
            false

/-- Make links. -/
def run : Action := fun args =>
  withOptions options args fun choices operands => do
    match ← keepingOf "ln" choices with
    | none => return 1
    | some (keeping, suffix) =>
      let last := (choices.filter fun c => "fi".toList.contains c.letter).getLast?
      let q : Manner :=
        { symbolic := chosen choices "s", forces := last.any fun c => c.letter = 'f'
          asks := last.any fun c => c.letter = 'i'
          follows := (choices.filter fun c => "LP".toList.contains c.letter).getLast?.any
            fun c => c.letter = 'L'
          staysOnLink := chosen choices "n", relative := chosen choices "r"
          verbose := chosen choices "v", keeping, suffix }
      match ← destination q choices operands with
      | .error status => return status
      | .ok (none, source :: place :: _) => return if ← link q [] source place then 0 else 1
      | .ok (dir, operands) =>
        let mut made' : List Location := []
        let mut status := 0
        for source in operands do
          let place := inDirectory (dir.getD ['.']) (lastName source)
          if ← link q made' source place then
            if !q.symbolic then
              match (← get).disk.locateSelf (pathOf place) with
              | .ok loc => made' := loc :: made'
              | .error _ => pure ()
          else status := 1
        return status

end BulkSuppress.Shell.Utility.Linking
