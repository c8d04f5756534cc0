import BulkSuppress.Shell.Builtin.Directory
import BulkSuppress.Shell.Extended.Arguments

/-
  The working directory in the extended dialect, and the directories that a script keeps to come
  back to.
-/

namespace BulkSuppress.Shell.Extended

/-! ## Going to a directory -/

/-- Go to a directory, or tell why that cannot be done. -/
def goTo (isPhysical : Bool) (dir shown : Octets) : Run Bool := do
  if ← Builtin.goTo isPhysical dir then return true
  else
    let m ← get
    let why := match m.disk.resolve ⟨Octets.toText dir⟩ with
      | .error e => reasonOf e
      | .ok _ => reasonOf .notDirectory
    refuse (shown ++ ": ".toList ++ why.toList)
    return false

/-- Options let links be taken as they are. -/
def isPhysical (choices : List Choice) (m : Machine) : Bool :=
  match (choices.filter fun c => c.letter = 'L' || c.letter = 'P').getLast? with
  | some c => c.letter = 'P'
  | none => m.has 'P'

/-- Make a directory the working directory. -/
def cd (args : List Octets) : Run Unit :=
  withOptions "cd" "LPe@" (if args = [['-']] then [['-', '-'], ['-']] else args)
    fun choices rest => do
    let m ← get
    let go (dir : Octets) (isShown : Bool) : Run Unit := do
      let found := (Builtin.directoryPaths m dir).find? fun p =>
        m.disk.isDirectory ⟨Octets.toText p.1⟩
      let (target, isFound) := found.getD (dir, false)
      if ← goTo (isPhysical choices m) target dir then
        if isShown || isFound then Run.write ((← get).here ++ ['\n'])
        Run.status 0
    match rest with
    | [] =>
      match m.value? "HOME" with
      | some dir => if dir.isEmpty then Run.status 0 else go dir false
      | none => refuse "HOME not set".toList
    | [dir] =>
      if dir = ['-'] then
        match m.value? "OLDPWD" with
        | some dir => go dir true
        | none => refuse "OLDPWD not set".toList
      else if dir.isEmpty then Run.status 0
      else go dir false
    | _ => refuse "too many arguments".toList

/-- Write the working directory. -/
def pwd (args : List Octets) : Run Unit :=
  withOptions "pwd" "LP" args fun choices _ => do
    let m ← get
    Run.write ((if isPhysical choices m then Builtin.physical m.disk else m.here) ++ ['\n'])
    Run.status 0

/-! ## Directories to come back to -/

/-- A path with a tilde in place of the home directory. -/
def withTilde (m : Machine) (dir : Octets) : Octets :=
  match m.value? "HOME" with
  | some home =>
    if home.isEmpty || home = ['/'] then dir
    else if dir = home then ['~']
    else if (home ++ ['/']).isPrefixOf dir then '~' :: dir.drop home.length
    else dir
  | none => dir

/-- How directories are listed. -/
structure Listed where
  isLong : Bool := false
  byLine : Bool := false
  isNumbered : Bool := false

/-- A directory as it is listed. -/
def Listed.shown (l : Listed) (m : Machine) (dir : Octets) : Octets :=
  if l.isLong then dir else withTilde m dir

/-- Write the working directory and those to come back to. -/
def showDirectories (l : Listed) : Run Unit := do
  let m ← get
  let all := (m.here :: m.directories).map (l.shown m)
  if l.isNumbered then
    let numbered := (List.range all.length).zip all
    Run.write (numbered.flatMap fun (n, dir) =>
      let digits := (toString n).toList
      List.replicate (2 - digits.length) ' ' ++ digits ++ [' ', ' '] ++ dir ++ ['\n'])
  else if l.byLine then Run.write (all.flatMap (· ++ ['\n']))
  else Run.write (Octets.join [' '] all ++ ['\n'])

/-- The place that a text with a sign names among so many directories. -/
def placeOf? (count : Nat) (cs : Octets) : Option (Option Nat) :=
  match cs with
  | '+' :: digits => (decimal? digits).map fun n => if n < count then some n else none
  | '-' :: digits => (decimal? digits).map fun n => if n < count then some (count - 1 - n) else none
  | _ => none

/-- Tell that a text with a sign is no number. -/
def noNumber (name : String) (cs : Octets) : Run Unit := do
  Run.warn (cs ++ ": invalid number".toList)
  usage name

/-- Tell that there is no directory at a place. -/
def noPlace (m : Machine) (cs : Octets) : Run Unit :=
  if m.directories.isEmpty then refuse "directory stack empty".toList
  else refuse (cs ++ ": directory stack index out of range".toList)

/-- List or forget directories. -/
def dirs (args : List Octets) : Run Unit := do
  Run.status 0
  listed {} none args
where
  /-- List directories as arguments say. -/
  listed (l : Listed) (place : Option Octets) : List Octets → Run Unit
    | [] => do
      let m ← get
      match place with
      | none => showDirectories l
      | some cs =>
        match placeOf? (m.directories.length + 1) cs with
        | some (some n) =>
          Run.write ((((m.here :: m.directories)[n]?).elim [] (l.shown m)) ++ ['\n'])
        | _ => noPlace m cs
    | ['-', 'c'] :: _ => modify fun m => { m with directories := [] }
    | ['-', 'l'] :: rest => listed { l with isLong := true } place rest
    | ['-', 'p'] :: rest => listed { l with byLine := true } place rest
    | ['-', 'v'] :: rest => listed { l with byLine := true, isNumbered := true } place rest
    | ['-', '-'] :: rest => listed l place rest
    | cs :: rest =>
      match placeOf? 1 cs with
      | some _ => listed l (some cs) rest
      | none =>
        if cs.head? = some '-' then noNumber "dirs" cs
        else do
          Run.warn (cs ++ ": invalid option".toList)
          usage "dirs"

/-- Go to the first of some directories, and keep the others. -/
def take (directories : List Octets) : Run Unit := do
  match directories with
  | [] => return
  | dir :: rest =>
    if ← goTo false dir dir then
      modify fun m => { m with directories := rest }
      showDirectories {}
      Run.status 0

/-- Keep the working directory, and go to another one. -/
def pushd (args : List Octets) : Run Unit := do
  let m ← get
  let stays := args.head? = some ['-', 'n']
  let rest := behindDashes (if stays then args.drop 1 else args)
  match rest with
  | [] =>
    match m.directories with
    | [] => refuse "no other directory".toList
    | dir :: others => take (dir :: m.here :: others)
  | cs :: more =>
    match placeOf? (m.directories.length + 1) cs with
    | some (some n) =>
      let all := m.here :: m.directories
      take (all.drop n ++ all.take n)
    | some none => noPlace m cs
    | none =>
      if cs.head? = some '-' && cs ≠ ['-'] then noNumber "pushd" cs
      else if !more.isEmpty then refuse "too many arguments".toList
      else if stays then
        modify fun m => { m with directories := cs :: m.directories }
        showDirectories {}
        Run.status 0
      else
        let target := if cs = ['-'] then (m.value? "OLDPWD").getD [] else cs
        if ← goTo false target target then
          modify fun after => { after with directories := m.here :: m.directories }
          showDirectories {}
          Run.status 0

/-- Come back to a directory. -/
def popd (args : List Octets) : Run Unit := do
  let m ← get
  let stays := args.head? = some ['-', 'n']
  let rest := behindDashes (if stays then args.drop 1 else args)
  let drop (n : Nat) : Run Unit := do
    modify fun m => { m with directories := m.directories.eraseIdx n }
    showDirectories {}
    Run.status 0
  match rest with
  | cs :: _ =>
    match placeOf? (m.directories.length + 1) cs with
    | some (some 0) => back
    | some (some (n + 1)) => drop n
    | some none => noPlace m cs
    | none =>
      if cs.head? = some '-' then noNumber "popd" cs
      else do
        Run.warn (cs ++ ": invalid argument".toList)
        usage "popd"
  | [] =>
    match m.directories with
    | [] => refuse "directory stack empty".toList
    | _ :: _ => if stays then drop 0 else back
where
  /-- Come back to the directory that was kept last. -/
  back : Run Unit := do
    match (← get).directories with
    | [] => refuse "directory stack empty".toList
    | dirs => take dirs

end BulkSuppress.Shell.Extended
