import BulkSuppress.Shell.Utility.Names

/-
  Where paths lead: links read one at a time, and paths without links, dots and repeated slashes.
  How much of such a path has to be there is up to the caller; what is not there has neither links
  nor directories, so that its names stay as they are.
-/

namespace BulkSuppress.Shell.Utility

/-- How much of a path has to be there. -/
inductive Presence where
  | all
  /-- The last name may be missing. -/
  | allButLast
  | nothing
deriving DecidableEq, Repr

/--
The location that the pieces of a path lead to from `loc`, through at most `links` links, where
`kind` tells what is found at a location.
-/
def plainFrom (presence : Presence) (kind : Location → Option Kind) (links : Nat) (loc : Location) :
    List (List Char) → Except SystemError Location
  | [] => .ok loc
  | piece :: rest =>
    match Component.ofPiece? piece with
    | none => plainFrom presence kind links loc rest
    | some (.name n) =>
      let next := loc ++ [n]
      let isLast := rest.all (·.isEmpty)
      if Disk.nameLimit < n.utf8ByteSize then .error .nameTooLong
      else match kind next with
        | none =>
          let parent := kind loc
          if presence = .nothing then plainFrom presence kind links next rest
          else if parent.isSome && parent ≠ some .directory then .error .notDirectory
          else if presence = .allButLast && isLast then .ok next
          else .error .notFound
        | some (.link target) =>
          match links with
            | 0 => .error .tooManyLinks
            | links + 1 =>
              plainFrom presence kind links (Disk.startOf loc target) (Disk.piecesOf target ++ rest)
        | some k =>
          if k ≠ .directory && !rest.isEmpty && presence ≠ .nothing then .error .notDirectory
          else plainFrom presence kind links next rest
    | some _ => plainFrom presence kind links loc.dropLast rest
termination_by pieces => (links, pieces.length)

/-- The location that a path leads to, as far as it has to be there. -/
def plain (presence : Presence) (d : Disk) (p : Path) : Except SystemError Location :=
  if p.text.isEmpty then .error .notFound
  else if Disk.pathLimit < p.text.utf8ByteSize then .error .nameTooLong
  else plainFrom presence d.kind? Disk.linkLimit (Disk.startOf d.workingDirectory p)
    (Disk.piecesOf p)

/-- The names that the pieces of a path come to by themselves, from those at `loc` on. -/
def namesFrom (presence : Presence) (d : Disk) (loc : Location) :
    List (List Char) → Except SystemError Location
  | [] => .ok loc
  | piece :: rest =>
    match Component.ofPiece? piece with
    | none => namesFrom presence d loc rest
    | some (.name n) =>
      let next := loc ++ [n]
      let path : Path := ⟨"/" ++ Path.slashed next⟩
      let plainly := rest.dropWhile fun p => p.isEmpty || p = ['.']
      let asksDirectory := !rest.isEmpty && (plainly.isEmpty || plainly.head? = some ['.', '.'])
      if presence matches .nothing then namesFrom presence d next rest
      else if asksDirectory && d.exists? path && !d.isDirectory path then .error .notDirectory
      else if !d.exists? path && rest.isEmpty && presence matches .all then .error .notFound
      else if !d.exists? path && asksDirectory && !rest.all (·.isEmpty) then .error .notFound
      else namesFrom presence d next rest
    | some _ => namesFrom presence d loc.dropLast rest

/-- What a path comes to by its names, whatever links there are. -/
def byNames (presence : Presence) (d : Disk) (p : Path) : Except SystemError Location :=
  if p.text.isEmpty then .error .notFound
  else namesFrom presence d (Disk.startOf d.workingDirectory p) (Disk.piecesOf p)

/-- The path of a location. -/
def pathTo (loc : Location) : Octets := '/' :: Octets.ofText (Path.slashed loc)

/-- The path from one location to another one. -/
def pathBetween (start loc : Location) : Octets :=
  let shared := ((start.zip loc).takeWhile fun x => x.1 = x.2).length
  let names := List.replicate (start.length - shared) ".." ++ loc.drop shared
  if names.isEmpty then ['.'] else Octets.ofText (Path.slashed names)

/-! ## Links -/

/-- Where a link leads, or why there is no telling. -/
def targetOf (d : Disk) (cs : Octets) : Except SystemError Octets := do
  match d.entryAt? (← d.locateSelf (pathOf cs)) with
  | some (.link target) => return Octets.ofText target.text
  | _ => .error .invalid

/-- Write where links lead, or paths without links. -/
def readlink : Action := fun args =>
  withOptions { name := "readlink", letters := "efmnqsvz"
                longs := [("canonicalize", 'f'), ("canonicalize-existing", 'e'),
                  ("canonicalize-missing", 'm'), ("no-newline", 'n'), ("quiet", 'q'),
                  ("silent", 's'), ("verbose", 'v'), ("zero", 'z')] } args
    fun choices operands => do
    if operands.isEmpty then missingOperand "readlink"
    else
      let isSingle := operands.length = 1
      if chosen choices "n" && !isSingle then
        complain "readlink" "ignoring --no-newline with multiple arguments".toList
      let ending := if chosen choices "n" && isSingle then [] else resultEnd choices
      let d := (← get).disk
      let manner := (choices.filter fun c => "efm".toList.contains c.letter).getLast?
      let tells := (choices.filter fun c => "qsv".toList.contains c.letter).getLast?.any
        fun c => c.letter = 'v'
      let mut status := 0
      for cs in operands do
        let found : Except SystemError Octets := match manner with
          | none => targetOf d cs
          | some c =>
            let presence : Presence := if c.letter = 'e' then .all
              else if c.letter = 'f' then .allButLast else .nothing
            (plain presence d (pathOf cs)).map pathTo
        match found with
        | .ok path => Run.write (path ++ ending)
        | .error e =>
          status := 1
          if tells then complainAbout "readlink" (shownName cs) e
      return status

/-! ## Paths without links -/

/--
A path made plain, by its names alone or with links followed, or with links followed in what it
comes to by its names.
-/
def plainBy (presence : Presence) (links : Option Char) (d : Disk) (cs : Octets) :
    Except SystemError Location := do
  match links with
  | some 's' => byNames presence d (pathOf cs)
  | some 'L' => plain presence d ⟨"/" ++ Path.slashed (← byNames presence d (pathOf cs))⟩
  | _ => plain presence d (pathOf cs)

/-- Write paths without links. -/
def realpath : Action := fun args =>
  withOptions { name := "realpath", letters := "eLmPqszτ:β:"
                longs := [("canonicalize-existing", 'e'), ("canonicalize-missing", 'm'),
                  ("relative-to", 'τ'), ("relative-base", 'β'), ("quiet", 'q'), ("strip", 's'),
                  ("no-symlinks", 's'), ("zero", 'z'), ("logical", 'L'), ("physical", 'P')] } args
    fun choices operands => do
    if operands.isEmpty then missingOperand "realpath"
    else
      let d := (← get).disk
      let presence : Presence :=
        match (choices.filter fun c => "em".toList.contains c.letter).getLast? with
        | some c => if c.letter = 'e' then .all else .nothing
        | none => .allButLast
      let links := (choices.filter fun c => "sLP".toList.contains c.letter).getLast?
      let lead := plainBy presence (links.map (·.letter)) d
      let refuse (cs : Octets) (e : SystemError) : Run Nat := do
        complainAbout "realpath" (shownName cs) e
        return 1
      let checked (cs : Octets) : Except SystemError Location := do
        let loc ← lead cs
        if (presence matches .all) && !d.isDirectoryAt loc then .error .notDirectory else return loc
      let base := valueOf? choices "β"
      let start := (valueOf? choices "τ").or base
      match start.map fun cs => (cs, checked cs) with
      | some (cs, .error e) => refuse cs e
      | start =>
        match base.map fun cs => (cs, checked cs) with
        | some (cs, .error e) => refuse cs e
        | base =>
          let place? (x : Option (Octets × Except SystemError Location)) : Option Location :=
            x.bind fun y => y.2.toOption
          let (start, base) := match place? start, place? base with
            | some s, some b => if b.isPrefixOf s then (some s, some b) else (none, some s)
            | s, b => (s, b)
          let mut status := 0
          for cs in operands do
            match lead cs with
            | .error e =>
              status := 1
              if !chosen choices "q" then complainAbout "realpath" (shownName cs) e
            | .ok loc =>
              let isBelow := base.all fun b => b.isPrefixOf loc
              let shown := match start with
                | some s => if isBelow then pathBetween s loc else pathTo loc
                | none => pathTo loc
              Run.write (shown ++ resultEnd choices)
          return status

end BulkSuppress.Shell.Utility
