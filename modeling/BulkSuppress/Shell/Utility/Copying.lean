import BulkSuppress.Shell.Utility.Place

/-
  Copying and moving files, and directories with all that they hold. A directory that is copied into
  itself is not copied again where it shows up as its own copy. What is moved replaces what is in its
  place, unless that is a directory that holds something, or it is asked to stay.
-/

namespace BulkSuppress.Shell.Utility.Copying

open Placing (Thing Past Permission Destination both lookAt isLinkAt tell)

/-- What happens while things are copied. -/
structure Progress where
  past : Past := {}
  /-- The directories among the operands. -/
  directories : List Location := []
  /-- The first directory that was made for the present operand. -/
  first : Option Location := none
  /-- The present operand turned out to be copied into itself. -/
  loops : Bool := false
  /-- There is more than one operand, so that they can get in each other's way. -/
  tracks : Bool := false

/-- Copying, with what happened so far. -/
abbrev Walk := StateT Progress Run

/-- Give what has been copied the rights and the times of its source, as far as that is asked for. -/
def protect (q : Placing) (source place : Location) (isNew : Bool) : Run Unit := do
  let m ← get
  let mode := m.modeAt source
  if q.keepsMode then set (m.withMode place mode)
  else if isNew then set (m.withMode place (mode ^^^ (mode &&& m.mask)))
  if q.keepsTimes then modify fun m => m.withStamp place (m.stampAt source)

/-- Copy a file. -/
def copyFile (q : Placing) (s : Thing) (target : Octets) : Run Bool := do
  let m ← get
  let content := if q.withoutContent then .empty else match s.entry with
    | .file content _ => content
    | _ => .empty
  match lookAt m false target with
  | .ok (place, .file old _) =>
    let content := if q.withoutContent then old else content
    set (m.withContent place content)
    protect q s.location place false
    return true
  | .ok (place, _) =>
    match Machine.channelAt m.disk place false with
    | .ok (.zeros false) =>
      if content.size = 0 then return true
      else q.refuseFor ("error writing ".toList ++ shellQuoted target) (.code 28)
    | _ => return true
  | .error _ =>
    if m.disk.selfAt? (pathOf target) matches some (.link _) then
      q.refuse ("not writing through dangling symlink ".toList ++ shellQuoted target)
    else
      match m.openFile (pathOf target) with
      | .ok (place, m) =>
        set (m.withContent place content)
        protect q s.location place true
        return true
      | .error e =>
        q.refuseFor ("cannot create regular file ".toList ++ shellQuoted target)
          (if e = .isDirectory && target.getLast? = some '/' then .notDirectory else e)

/-- Make a link, in the place of what is there if that can be removed. -/
def linkAt (q : Placing) (target : Octets) (what : Octets) (clears : Bool)
    (f : Machine → Except SystemError Machine) : Run Bool := do
  let m ← get
  let made : Except SystemError Machine := match f m with
    | .error e =>
      if e = .alreadyExists && clears then (m.removeFile (pathOf target)).bind f else .error e
    | r => r
  match made with
  | .ok m =>
    set m
    return true
  | .error e => q.refuseFor what e

/-- Make a link to a thing by its path. -/
def linkByPath (q : Placing) (s : Thing) (target : Octets) : Run Bool := do
  let m ← get
  let isHere := (m.disk.resolve (pathOf (directoryName target))).toOption =
    some m.disk.workingDirectory
  if s.path.head? ≠ some '/' && !isHere then
    q.refuse (shownName target ++
      ": can make relative symbolic links only in current directory".toList)
  else
    linkAt q target ("cannot create symbolic link ".toList ++ both target " to " s.path) q.forces
      fun m => m.makeLink (pathOf target) (pathOf s.path)

/-- Copy something that is no directory. -/
def copyLeaf (q : Placing) (s : Thing) (target : Octets) : Run Bool := do
  if q.softLinks then linkByPath q s target
  else if q.hardLinks then
    linkAt q target ("cannot create hard link ".toList ++ both target " to " s.path)
      (q.forces || q.overwriting = .asked) fun m => m.linkFile s.location (pathOf target)
  else
    match s.entry with
    | .link there =>
      let made ← linkAt q target ("cannot create symbolic link ".toList ++ shellQuoted target)
        q.forces fun m => m.makeLink (pathOf target) there
      if made && q.keepsTimes then
        modify fun m => match m.disk.locateSelf (pathOf target) with
          | .ok place => m.withStamp place (m.stampAt s.location)
          | .error _ => m
      return made
    | _ => copyFile q s target

/-- The entries directly in a directory, in the order in which they were made. -/
def entriesIn (d : Disk) (dir : Location) : List String :=
  d.entries.filterMap fun e => Disk.childName? dir e.1

/-- What a path leads to, with links followed as asked for. -/
def sourceAt (q : Placing) (m : Machine) (path : Octets) (isOperand : Bool) :
    Except SystemError Thing := do
  let follows := match q.following with
    | .never => false
    | .operands => isOperand
    | .always => true
  let (location, entry) ← lookAt m (!follows) path
  return { path, location, entry, isOperand }

/-- Remember where an operand has got its place. -/
def remember (s : Thing) (target : Octets) : Walk Unit := do
  if s.isOperand && (← get).tracks then
    match (← getThe Machine).disk.locateSelf (pathOf target) with
    | .ok place => modify fun p => { p with past := { p.past with targets := place :: p.past.targets } }
    | .error _ => pure ()

/-- Whether something gets its place. -/
def permit (q : Placing) (s : Thing) (target : Octets) : Walk Permission := do
  let m ← getThe Machine
  let isRegular := !(s.entry matches .directory) && !(s.entry matches .link _)
  let staysOnLink := !isRegular || q.softLinks || q.hardLinks || q.keeping ≠ .nothing || q.clears
  match lookAt m staysOnLink target with
  | .ok (place, there) => q.permission (← get).past s target place there
  | .error .notFound => return .granted true none
  | .error e => return .denied (← q.refuseFor ("cannot stat ".toList ++ shellQuoted target) e)

/-- A link in the place was made for another operand. -/
def goesThroughOwnLink (q : Placing) (s : Thing) (target : Octets) : Walk Bool := do
  if !s.isOperand || !(← get).tracks || q.keeping ≠ .nothing then return false
  let m ← getThe Machine
  match m.disk.locateSelf (pathOf target) with
  | .ok place => return isLinkAt m place && (← get).past.targets.contains place
  | .error _ => return false

/-- Make the directory for a copy, unless it is there; the answer tells whether there is one. -/
def makeDirectoryFor (q : Placing) (s : Thing) (target : Octets) (isNew : Bool) : Walk Bool := do
  if !isNew then return true
  let m ← getThe Machine
  match m.makeDirectory (pathOf target) with
  | .error e => q.refuseFor ("cannot create directory ".toList ++ shellQuoted target) e
  | .ok m =>
    set m
    match m.disk.locateSelf (Disk.unslashed (pathOf target)) with
    | .ok place =>
      if (← get).first.isNone then modify fun p => { p with first := some place }
    | .error _ => pure ()
    if q.verbose then tell "" s.path target none
    return true

/-- Copy what a path leads to; the bound is on directories inside directories. -/
def copy (q : Placing) (top : Octets × Octets) : (depth : Nat) → (isOperand : Bool) →
    (source target : Octets) → (above : List Location) → Walk Bool
  | 0, _, _, _, _ => return false
  | depth + 1, isOperand, source, target, above => do
    let q := if !isOperand && q.following = .operands then { q with follows := some .never } else q
    match sourceAt q (← getThe Machine) source isOperand with
    | .error e => q.refuseFor ("cannot stat ".toList ++ shellQuoted source) e
    | .ok s =>
      let isDirectory := s.entry matches .directory
      if isDirectory && !q.recursive then
        return ← q.refuse ("-r not specified; omitting directory ".toList ++ shellQuoted source)
      if isOperand && (← get).tracks then
        if !isDirectory && q.keeping = .nothing && (← get).past.sources.contains s.location then
          let _ ← q.refuse ("warning: source file ".toList ++ shellQuoted source ++
            " specified more than once".toList)
          return true
        modify fun p => { p with past := { p.past with sources := s.location :: p.past.sources } }
      match ← permit q s target with
      | .denied isFine => return isFine
      | .granted isNew kept =>
        if ← goesThroughOwnLink q s target then
          return ← q.refuse ("will not copy ".toList ++
            both source " through just-created symlink " target)
        if !isDirectory then
          if q.verbose then tell "" source target kept
          let fine ← copyLeaf q s target
          remember s target
          return fine
        else if (← get).first = some s.location then
          modify fun p => { p with loops := true }
          q.refuse ("cannot copy a directory, ".toList ++ both top.1 ", into itself, " top.2)
        else if isOperand && (← get).directories.contains s.location then
          let _ ← q.refuse ("warning: source directory ".toList ++ shellQuoted source ++
            " specified more than once".toList)
          return true
        else if above.contains s.location then
          q.refuse ("cannot copy cyclic symbolic link ".toList ++ shellQuoted source)
        else
          if isOperand then modify fun p => { p with directories := s.location :: p.directories }
          if !(← makeDirectoryFor q s target isNew) then return false
          let mut fine := true
          for name in entriesIn (← getThe Machine).disk s.location do
            let name := Octets.ofText name
            if !(← get).loops then
              if !(← copy q top depth false (inDirectory source name) (inDirectory target name)
                  (s.location :: above)) then fine := false
          match (← getThe Machine).disk.resolve (pathOf target) with
          | .ok place => protect q s.location place isNew
          | .error _ => pure ()
          return fine

/-! ## Operands -/

/-- Make the directories above a place for an operand whose path is put below it as a whole. -/
def makeWay (q : Placing) (directory operand : Octets) : Run Bool := do
  let ways := (Disk.ancestors (pathOf operand)).dropLast.map fun p => Octets.ofText p.text
  for way in ways.filter fun cs => (withoutSlashes cs) ≠ [] do
    let place := inDirectory directory (way.dropWhile (· = '/'))
    let m ← get
    if !m.disk.isDirectory (pathOf place) then
      if m.disk.exists? (pathOf place) then
        return ← q.refuse (shellQuoted place ++ " exists but is not a directory".toList)
      match m.disk.resolve (pathOf way) with
      | .error e => return ← q.refuseFor ("failed to get attributes of ".toList ++ shellQuoted way) e
      | .ok loc =>
        match m.makeDirectory (pathOf place) with
        | .error e => return ← q.refuseFor ("cannot make directory ".toList ++ shellQuoted place) e
        | .ok made =>
          set made
          match made.disk.resolve (pathOf place) with
          | .ok new => protect q loc new true
          | .error _ => pure ()
          if q.verbose then Run.write (way ++ " -> ".toList ++ place ++ ['\n'])
  return true

/-- Copy operands to where they are to be put. -/
def copyAll (q : Placing) (operands : List Octets) (to' : Destination) : Run Nat := do
  let depth := (← get).disk.entries.length + 2
  let mut progress : Progress := { tracks := 1 < operands.length }
  let mut status := 0
  for operand in operands do
    let (target, hasWay) ← match to' with
      | .place path => pure (path, true)
      | .directory dir =>
        if q.parents then
          let plain := withoutSlashes operand
          pure (inDirectory dir (plain.dropWhile (· = '/')), ← makeWay q dir plain)
        else
          let name := lastName operand
          pure (inDirectory dir (if name = "..".toList then ['.'] else name), true)
    if hasWay then
      let (fine, after) ←
        (copy q (operand, target) depth true operand target []).run { progress with
          first := none, loops := false }
      progress := after
      if !fine then status := 1
    else status := 1
  return status

/-! ## Options -/

/-- What copies can get besides the content. -/
inductive Kept where
  | mode
  | timestamps
  | other
  | all
deriving DecidableEq, Repr

/-- The names of what copies can get. -/
def keptNames : List (List String × Kept) :=
  [(["mode"], .mode), (["timestamps"], .timestamps), (["ownership"], .other), (["links"], .other),
    (["context"], .other), (["xattr"], .other), (["all"], .all)]

/-- The names of the ways to leave holes in files, and to share their blocks. -/
def holeNames : List (List String × Nat) := [(["never"], 0), (["auto"], 1), (["always"], 2)]

/-- The names of the ways to share the blocks of files. -/
def sharingNames : List (List String × Nat) := [(["auto"], 0), (["always"], 1), (["never"], 2)]

/-- The manner with what a list of names says that copies get, or do not. -/
def withKept (q : Placing) (option : String) (on : Bool) (names : Octets) : Run (Option Placing) := do
  let mut q := q
  for name in Text.pieces ',' names do
    match ← namedValue? "cp" option keptNames name with
    | none => return none
    | some .mode => q := { q with keepsMode := on }
    | some .timestamps => q := { q with keepsTimes := on }
    | some .all => q := { q with keepsMode := on, keepsTimes := on }
    | some .other => pure ()
  return some q

/-- The manner with a choice. -/
def withChoice (q : Placing) (c : Choice) : Run (Option Placing) := do
  match c.letter with
  | 'a' =>
    return some { q with
      follows := some .never, recursive := true, keepsMode := true, keepsTimes := true }
  | 'α' => return some { q with withoutContent := true }
  | 'd' | 'P' => return some { q with follows := some .never }
  | 'f' => return some { q with forces := true }
  | 'H' => return some { q with follows := some .operands }
  | 'i' => return some { q with overwriting := .asked }
  | 'l' => return some { q with hardLinks := true }
  | 'L' => return some { q with follows := some .always }
  | 'n' => return some { q with overwriting := .never }
  | 'p' => return some { q with keepsMode := true, keepsTimes := true }
  | 'π' =>
    if c.value.isEmpty then return some { q with keepsMode := true, keepsTimes := true }
    else withKept q "--preserve" true c.value
  | 'ο' => withKept q "--no-preserve" false c.value
  | 'ρ' => return some { q with clears := true }
  | 'r' | 'R' => return some { q with recursive := true }
  | 's' => return some { q with softLinks := true }
  | 'u' => return some { q with updates := true }
  | 'v' => return some { q with verbose := true }
  | 'ω' => return some { q with parents := true }
  | 'σ' => return (← namedValue? "cp" "--sparse" holeNames c.value).map fun _ => q
  | 'κ' =>
    if c.value.isEmpty then return some q
    else return (← namedValue? "cp" "--reflink" sharingNames c.value).map fun _ => q
  | _ => return some q

/-- The options. -/
def options : Options :=
  { name := "cp", letters := "abdfHilLnprst:uvxPRS:TZαδ::γο:π::ρσ:κ::θωζ::"
    longs := [("archive", 'a'), ("attributes-only", 'α'), ("backup", 'δ'), ("copy-contents", 'γ'),
      ("dereference", 'L'), ("force", 'f'), ("interactive", 'i'), ("link", 'l'),
      ("no-clobber", 'n'), ("no-dereference", 'P'), ("no-preserve", 'ο'),
      ("no-target-directory", 'T'), ("one-file-system", 'x'), ("parents", 'ω'), ("path", 'ω'),
      ("preserve", 'π'), ("recursive", 'R'), ("remove-destination", 'ρ'), ("sparse", 'σ'),
      ("reflink", 'κ'), ("strip-trailing-slashes", 'θ'), ("suffix", 'S'), ("symbolic-link", 's'),
      ("target-directory", 't'), ("update", 'u'), ("verbose", 'v'), ("context", 'ζ')] }

/-- Copy files. -/
def run : Action := fun args =>
  withOptions options args fun choices operands => do
    let mut q : Placing := { utility := "cp" }
    for c in choices do
      match ← withChoice q c with
      | some q' => q := q'
      | none => return 1
    if q.hardLinks && q.softLinks then
      complain "cp" "cannot make both hard and symbolic links".toList
      hint "cp"
      return 1
    if chosen choices "bSδ" && q.overwriting = .never then
      complain "cp" "options --backup and --no-clobber are mutually exclusive".toList
      hint "cp"
      return 1
    match ← keepingOf "cp" choices with
    | none => return 1
    | some (keeping, suffix) =>
      match ← { q with keeping, suffix }.destination choices operands with
      | .error status => return status
      | .ok (operands, to') =>
        if q.parents && to' matches .place _ then
          complain "cp" "with --parents, the destination must be a directory".toList
          hint "cp"
          return 1
        copyAll { q with keeping, suffix } (if chosen choices "θ" then operands.map withoutSlashes else operands) to'

end BulkSuppress.Shell.Utility.Copying

namespace BulkSuppress.Shell.Utility.Moving

/-! ## Moving -/

open Placing (Thing Past both lookAt tell)

/-- Complain that something cannot be moved. -/
def unmoved (q : Placing) (source target : Octets) (e : SystemError) : Run Bool :=
  if e = .invalid then
    q.refuse ("cannot move ".toList ++ both source " to a subdirectory of itself, " target)
  else if [.alreadyExists, .isDirectory, .notEmpty, .code 26, .code 28, .code 31].contains e then
    q.refuseFor ("cannot overwrite ".toList ++ shellQuoted target) e
  else q.refuseFor ("cannot move ".toList ++ both source " to " target) e

/-- Move something to a place, which may be free. -/
def moveTo (q : Placing) (past : Past) (source target : Octets) : Run Bool := do
  let m ← get
  match lookAt m true source with
  | .error e => q.refuseFor ("cannot stat ".toList ++ shellQuoted source) e
  | .ok (location, entry) =>
    let s : Thing := { path := source, location, entry }
    let go (kept : Option Octets) : Run Bool := do
      match (← get).rename (pathOf source) (pathOf target) with
      | .ok m =>
        set m
        if q.verbose then tell "renamed " source target kept
        return true
      | .error e => unmoved q source target e
    match lookAt m true target with
    | .ok (place, there) =>
      match ← q.permission past s target place there with
      | .denied isFine => return isFine
      | .granted _ kept => go kept
    | .error .notFound => go none
    | .error e => q.refuseFor ("cannot stat ".toList ++ shellQuoted target) e

/-- Move operands to where they are to be put. -/
def moveAll (q : Placing) (operands : List Octets) (to' : Placing.Destination) : Run Nat := do
  let mut past : Past := {}
  let mut status := 0
  for operand in operands do
    let target := match to' with
      | .place path => path
      | .directory dir => inDirectory dir (lastName operand)
    if ← moveTo q past operand target then
      match (← get).disk.locateSelf (pathOf target) with
      | .ok place => if 1 < operands.length then past := { past with targets := place :: past.targets }
      | .error _ => pure ()
    else status := 1
  return status

/-- The options. -/
def options : Options :=
  { name := "mv", letters := "bfint:uvS:TZδ::θ"
    longs := [("backup", 'δ'), ("context", 'Z'), ("force", 'f'), ("interactive", 'i'),
      ("no-clobber", 'n'), ("no-target-directory", 'T'), ("strip-trailing-slashes", 'θ'),
      ("suffix", 'S'), ("target-directory", 't'), ("update", 'u'), ("verbose", 'v')] }

/-- Move files. -/
def run : Action := fun args =>
  withOptions options args fun choices operands => do
    let overwriting : Overwriting :=
      match (choices.filter fun c => "fin".toList.contains c.letter).getLast? with
      | some c => if c.letter = 'i' then .asked else if c.letter = 'n' then .never else .unsaid
      | none => .unsaid
    let q : Placing :=
      { utility := "mv", moves := true, follows := some .never, recursive := true, overwriting
        updates := chosen choices "u", verbose := chosen choices "v" }
    match ← q.destination choices operands with
    | .error status => return status
    | .ok (operands, to') =>
      if chosen choices "bSδ" && (overwriting matches .never) then
        complain "mv" "options --backup and --no-clobber are mutually exclusive".toList
        hint "mv"
        return 1
      match ← keepingOf "mv" choices with
      | none => return 1
      | some (keeping, suffix) =>
        moveAll { q with keeping, suffix }
          (if chosen choices "θ" then operands.map withoutSlashes else operands) to'

end BulkSuppress.Shell.Utility.Moving
