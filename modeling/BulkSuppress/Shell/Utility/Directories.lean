import BulkSuppress.Shell.Utility.Mode
import BulkSuppress.Shell.Utility.Names

/-
  Making and removing directories, and removing files. Directories on the way to one can be made as
  well, and those that are left empty above one can be removed with it. What is removed with all that
  it holds is asked about file by file if that is wanted; a directory stays if something in it stays.
-/

namespace BulkSuppress.Shell.Utility

/-- Tell what has been done. -/
def report (utility : String) (cs : Octets) : Run Unit := do
  Run.write ((← calledName utility) ++ ": ".toList ++ cs ++ ['\n'])

/-! ## Making -/

/-- Why a directory on the way to another one cannot be made. -/
def wayProblem (m : Machine) (dir : Octets) (isLast : Bool) (e : SystemError) : SystemError :=
  if e = .alreadyExists && !isLast && !m.disk.isDirectory (pathOf dir) then .notDirectory else e

/-- Make a directory, with rights if some are asked for. -/
def makeOne (verbose : Bool) (mode : Option Nat) (dir shown : Octets) (isLast : Bool) :
    Run Bool := do
  let m ← get
  match m.makeDirectory (pathOf dir) with
  | .error e =>
    complain "mkdir" ("cannot create directory ".toList ++ quoted shown ++ ": ".toList ++
      (reasonOf (wayProblem m dir isLast e)).toList)
    return false
  | .ok made =>
    match mode, made.disk.resolve (pathOf dir) with
    | some mode, .ok loc => set (made.withMode loc mode)
    | _, _ => set made
    if verbose then report "mkdir" ("created directory ".toList ++ shellQuoted shown)
    return true

/-- Make directories. -/
def mkdir : Action := fun args =>
  withOptions { name := "mkdir", letters := "pm:vZκ::"
                longs := [("context", 'κ'), ("mode", 'm'), ("parents", 'p'), ("verbose", 'v')] } args
    fun choices operands => do
    if operands.isEmpty then missingOperand "mkdir"
    else
      let verbose := chosen choices "v"
      let mask := (← get).mask
      let mode : Option (Option Nat) := (valueOf? choices "m").map fun cs =>
        (RightsChange.ofMode? cs).map fun changes => RightsChange.appliedAll changes true mask 511
      match mode with
      | some none =>
        complain "mkdir" ("invalid mode ".toList ++ quoted ((valueOf? choices "m").getD []))
        return 1
      | mode =>
        let mut status := 0
        for cs in operands do
          if chosen choices "p" && (← get).disk.isDirectory (pathOf cs) then pure ()
          else if chosen choices "p" then
            let ways := Disk.ancestors (pathOf (withoutSlashes cs))
            let mut goesOn := true
            for (dir, i) in ways.zipIdx do
              let shown := Octets.ofText dir.text
              let isLast := i + 1 = ways.length
              if goesOn && !((← get).disk.isDirectory dir) then
                goesOn ← makeOne verbose (if isLast then mode.join else none) shown
                  (if isLast then cs else shown) isLast
            if !goesOn then status := 1
          else if !(← makeOne verbose mode.join cs cs true) then status := 1
        return status

/-! ## Removing -/

/-- The location of a directory that can be removed by a path, or why it cannot. -/
def removable (m : Machine) (cs : Octets) : Except SystemError Location := do
  if lastName cs = ['/'] then .error (.code 16)
  else
    let loc ← m.disk.locateSelf (pathOf (withoutSlashes cs))
    if !m.disk.isDirectoryAt loc then .error .notDirectory
    else if lastName cs = ['.'] then .error .invalid
    else if lastName cs = "..".toList || !(m.disk.children loc).isEmpty then .error .notEmpty
    else return loc

/-- Remove an empty directory, and tell why it cannot be done otherwise. -/
def removeOne (verbose : Bool) (cs : Octets) : Run (Option SystemError) := do
  if verbose then report "rmdir" ("removing directory, ".toList ++ shellQuoted cs)
  let m ← get
  match removable m cs with
  | .ok loc =>
    set (m.without loc)
    return none
  | .error e => return some e

/-- Remove the directories above one, innermost first; the answer tells whether that went well. -/
def removeAbove (verbose ignoresFull : Bool) : Nat → Octets → Run Bool
  | 0, _ => return true
  | n + 1, cs => do
    if !cs.contains '/' then return true
    let kept := (cs.reverse.dropWhile (· ≠ '/')).reverse
    let trimmed := withoutSlashes kept
    let dir := if trimmed.isEmpty then kept.take 1 else trimmed
    match ← removeOne verbose dir with
    | none => removeAbove verbose ignoresFull n (if dir = ['/'] then [] else dir)
    | some e =>
      if ignoresFull && e = .notEmpty then return true
      else
        let what := if e = .notDirectory then "failed to remove " else "failed to remove directory "
        complain "rmdir" (what.toList ++ shellQuoted dir ++ ": ".toList ++ (reasonOf e).toList)
        return false

/-- Remove empty directories. -/
def rmdir : Action := fun args =>
  withOptions { name := "rmdir", letters := "pvι"
                longs := [("ignore-fail-on-non-empty", 'ι'), ("path", 'p'), ("parents", 'p'),
                  ("verbose", 'v')] } args
    fun choices operands => do
    if operands.isEmpty then missingOperand "rmdir"
    else
      let verbose := chosen choices "v"
      let ignoresFull := chosen choices "ι"
      let mut status := 0
      for cs in operands do
        match ← removeOne verbose cs with
        | none =>
          if chosen choices "p" then
            if !(← removeAbove verbose ignoresFull cs.length (withoutSlashes cs)) then status := 1
        | some e =>
          if !(ignoresFull && e = .notEmpty) then
            let m ← get
            let isLink := cs.getLast? = some '/' && e = .notDirectory &&
              m.disk.selfAt? (pathOf (withoutSlashes cs)) matches some (.link _)
            complain "rmdir" ("failed to remove ".toList ++ shellQuoted cs ++ ": ".toList ++
              (if isLink then "Symbolic link not followed" else reasonOf e).toList)
            status := 1
      return status

end BulkSuppress.Shell.Utility

namespace BulkSuppress.Shell.Utility.Removal

/-! ## Removing what a directory holds -/

/-- How files are removed. -/
structure Manner where
  recursive : Bool := false
  /-- Empty directories are removed too. -/
  directories : Bool := false
  /-- What is not there is no reason to complain. -/
  ignoresMissing : Bool := false
  /-- Each file is asked about. -/
  asksEach : Bool := false
  /-- There is one question, if there is much to remove. -/
  asksOnce : Bool := false
  verbose : Bool := false
  /-- The root directory can be removed. -/
  sparesRoot : Bool := true

/-- What became of something that was to be removed. -/
inductive Outcome where
  | removed
  /-- It was not to be removed after all, and so what holds it stays. -/
  | kept
  | failed
deriving DecidableEq, Repr

/-- Remove what a location holds, unless that cannot be done. -/
def excise (q : Manner) (path : Octets) (loc : Location) : Run Outcome := do
  let m ← get
  let isDirectory := m.disk.isDirectoryAt loc
  let refused : Option SystemError :=
    if isDirectory && !(m.disk.children loc).isEmpty then some .notEmpty
    else if loc = [] then some (.code 16)
    else if isDirectory && path.getLast? = some '/' &&
      (m.disk.selfAt? (pathOf (withoutSlashes path)) matches some (.link _)) then some .notDirectory
    else none
  match refused with
  | some e =>
    complain "rm" ("cannot remove ".toList ++ shellQuoted path ++ ": ".toList ++ (reasonOf e).toList)
    return .failed
  | none =>
    set (m.without loc)
    if q.verbose then
      Run.write ((if isDirectory then "removed directory " else "removed ").toList ++
        shellQuoted path ++ ['\n'])
    return .removed

/-- Ask about something if that is wanted; the answer tells whether to go on. -/
def agreed (q : Manner) (e : Entry) (descends : Bool) (path : Octets) : Run Bool := do
  if !q.asksEach then return true
  else if descends then asks "rm" ("descend into directory ".toList ++ shellQuoted path)
  else asks "rm" ("remove ".toList ++ kindName e ++ [' '] ++ shellQuoted path)

/-- Remove what a path leads to; the bound is on directories inside directories. -/
def remove (q : Manner) : (depth : Nat) → (path : Octets) → Location → Entry → Run Outcome
  | 0, _, _, _ => return .failed
  | depth + 1, path, loc, e => do
    match e with
    | .directory =>
      let names := (← get).disk.children loc
      if !q.recursive && !(q.directories && names.isEmpty) then
        let why : SystemError := if q.directories then .notEmpty else .isDirectory
        complain "rm" ("cannot remove ".toList ++ shellQuoted path ++ ": ".toList ++
          (reasonOf why).toList)
        return .failed
      else if !(← agreed q e (!names.isEmpty) path) then return .kept
      else if names.isEmpty then excise q path loc
      else
        let mut worst := Outcome.removed
        for name in names do
          let inside := loc ++ [name]
          match (← get).disk.entryAt? inside with
          | some e =>
            let outcome ← remove q depth (inDirectory path (Octets.ofText name)) inside e
            if worst ≠ .failed && outcome ≠ .removed then worst := outcome
          | none => pure ()
        if worst ≠ .removed then return worst
        else if !(← agreed q e false path) then return .kept
        else excise q path loc
    | e => if ← agreed q e false path then excise q path loc else return .kept

/-- Complain that the root directory would be removed. -/
def refuseRoot (path : Octets) : Run Outcome := do
  let same := if path = ['/'] then [] else " (same as '/')".toList
  complain "rm" ("it is dangerous to operate recursively on ".toList ++ shellQuoted path ++ same)
  complain "rm" "use --no-preserve-root to override this failsafe".toList
  return .failed

/-- Remove an operand. -/
def removeOperand (q : Manner) (path : Octets) : Run Outcome := do
  let m ← get
  let short := if 2 < path.length then
      (path.take (withoutSlashes path).length) ++ (path.drop (withoutSlashes path).length).take 1
    else path
  let found := do
    let loc ← m.disk.locateSelf (pathOf short)
    return (loc, (m.disk.entryAt? loc).getD .directory)
  match found with
  | .error e =>
    if q.ignoresMissing && (e = .notFound || e = .notDirectory) then return .removed
    else
      complain "rm" ("cannot remove ".toList ++ shellQuoted short ++ ": ".toList ++
        (reasonOf e).toList)
      return .failed
  | .ok (loc, e) =>
    if e matches .directory then
      if !q.recursive then remove q 2 short loc e
      else if endsInDots short then
        complain "rm" ("refusing to remove '.' or '..' directory: skipping ".toList ++
          shellQuoted short)
        return .failed
      else if loc = [] && q.sparesRoot then refuseRoot short
      else remove q (m.disk.entries.length + 2) short loc e
    else remove q 1 short loc e

/-- The names of the times to ask. -/
def askingNames : List (List String × Nat) :=
  [(["never", "no", "none"], 0), (["once"], 1), (["always", "yes"], 2)]

/-- The manner with a choice. -/
def withChoice (q : Manner) (c : Choice) : Run (Option Manner) := do
  match c.letter with
  | 'd' => return some { q with directories := true }
  | 'f' => return some { q with asksEach := false, asksOnce := false, ignoresMissing := true }
  | 'i' => return some { q with asksEach := true, asksOnce := false, ignoresMissing := false }
  | 'I' => return some { q with asksEach := false, asksOnce := true, ignoresMissing := false }
  | 'ι' =>
    let when' ← if c.value.isEmpty then pure (some 2)
      else namedValue? "rm" "--interactive" askingNames c.value
    return when'.map fun n => { q with asksEach := n = 2, asksOnce := n = 1 }
  | 'r' | 'R' => return some { q with recursive := true }
  | 'v' => return some { q with verbose := true }
  | 'κ' => return some { q with sparesRoot := false }
  | _ => return some q

/-- The options. -/
def options : Options :=
  { name := "rm", letters := "dfirvIRι::ωκπ::τ"
    longs := [("force", 'f'), ("interactive", 'ι'), ("one-file-system", 'ω'),
      ("no-preserve-root", 'κ'), ("preserve-root", 'π'), ("-presume-input-tty", 'τ'),
      ("recursive", 'r'), ("dir", 'd'), ("verbose", 'v')] }

/-- Say how files whose names look like options are removed, if there are any among the arguments. -/
def hintAtFiles (args : List Octets) : Run Unit := do
  let m ← get
  match args.find? fun a => a.head? = some '-' && 1 < a.length && (m.disk.selfAt? (pathOf a)).isSome with
  | some a =>
    let name ← calledName "rm"
    let path := "./".toList ++ a
    Run.complain ("Try '".toList ++ name ++ [' '] ++ shownName path ++ "' to remove the file ".toList ++
      shellQuoted a ++ ".".toList)
  | none => return

/-- Remove files, and directories if that is asked for. -/
def run : Action := fun args => do
  match options.read args with
  | .error (.complaint why) =>
    complain "rm" why
    hintAtFiles args
    hint "rm"
    return 1
  | .error stop => stopped options stop
  | .ok (choices, operands) =>
    let mut q : Manner := {}
    for c in choices do
      match ← withChoice q c with
      | some q' => q := q'
      | none => return 1
    if operands.isEmpty then
      return ← if q.ignoresMissing then pure 0 else missingOperand "rm"
    let count := operands.length
    if q.asksOnce && (q.recursive || 3 < count) then
      let what := decimal count ++ (if count = 1 then " argument" else " arguments").toList ++
        (if q.recursive then " recursively" else "").toList
      if !(← asks "rm" ("remove ".toList ++ what)) then return 0
    let mut status := 0
    for cs in operands do
      if (← removeOperand q cs) = .failed then status := 1
    return status

end BulkSuppress.Shell.Utility.Removal
