import BulkSuppress.Shell.Builtin.Arguments

/-
  What a shell hands down to the programs that it starts: its working directory, and the rights that
  new files do not get. A shell remembers the path by which it came to where it is, so that the names
  that take back others go back on that path, also if it leads over links. The rights are nine bits:
  reading, writing and running, for the owner, the group and all others. A mode says in octal digits
  which rights are kept back, or with letters which ones are given.
-/

namespace BulkSuppress.Shell.Builtin

/-- The path of the working directory, as it lies on the disk. -/
def physical (d : Disk) : Octets := '/' :: Octets.ofText (Path.slashed d.workingDirectory)

/-- A path starts with exactly two slashes. -/
def hasTwoSlashes : Octets → Bool
  | ['/', '/'] => true
  | '/' :: '/' :: c :: _ => c ≠ '/'
  | _ => false

/-- The path of a directory from another one, without names that take back others. -/
def normalized (base dir : Octets) : Octets :=
  let whole := if dir.head? = some '/' then dir else base ++ ['/'] ++ dir
  let names := (Text.pieces '/' whole).foldl (fun up piece =>
    if piece.isEmpty || piece = ['.'] then up
    else if piece = ['.', '.'] then up.drop 1
    else piece :: up) []
  (if hasTwoSlashes (if dir.head? = some '/' then dir else base) then ['/', '/'] else ['/']) ++
    Octets.join ['/'] names.reverse

/-- A directory that is not looked for in other places than the working directory. -/
def isAnchored (dir : Octets) : Bool :=
  match dir with
  | '/' :: _ | ['.'] | ['.', '.'] | '.' :: '/' :: _ | '.' :: '.' :: '/' :: _ => true
  | _ => false

/-- The paths at which a directory is looked for, and whether the one that is found is written. -/
def directoryPaths (m : Machine) (dir : Octets) : List (Octets × Bool) :=
  match if isAnchored dir then none else m.value? "CDPATH" with
  | none => []
  | some places => (Text.pieces ':' places).map fun place =>
    if place.isEmpty then (dir, false) else (place ++ ['/'] ++ dir, true)

/-- Go to a directory; the answer tells whether that was possible. -/
def goTo (isPhysical : Bool) (dir : Octets) : Run Bool := do
  let m ← get
  let target := if isPhysical then dir else normalized m.here dir
  match m.disk.resolve ⟨Octets.toText target⟩ with
  | .error _ => return false
  | .ok loc =>
    if !m.disk.isDirectoryAt loc then return false
    let disk := { m.disk with workingDirectory := loc }
    let here := if isPhysical then physical disk else target
    let remembered := m.remembered.map fun (name, path, _) => (name, path, false)
    set { m with disk, here, remembered }
    for (name, value) in [("OLDPWD", m.here), ("PWD", here)] do
      Run.assign name value
      modify fun m => m.withVariable name ((m.binding? name).map fun v => { v with exported := true })
    return true

/-- Make a directory the working directory. -/
def cd (args : List Octets) : Run Unit := do
  let (choices, rest) ← options "LP" args
  let m ← get
  let isPhysical := (choices.getLast?.map (·.letter)) = some 'P'
  let isBack := rest.head? = some ['-']
  let asked := match rest with
    | [] => (m.value? "HOME").getD []
    | ['-'] :: _ => (m.value? "OLDPWD").getD []
    | dir :: _ => dir
  let asked := if asked.isEmpty then ['.'] else asked
  let found := (directoryPaths m asked).find? fun p => m.disk.isDirectory ⟨Octets.toText p.1⟩
  let (target, isShown) := found.getD (asked, false)
  if !(← goTo isPhysical target) then Run.fail ("can't cd to ".toList ++ asked)
  if isBack || isShown then Run.write ((← get).here ++ ['\n'])
  Run.status 0

/-- Write the working directory. -/
def pwd (args : List Octets) : Run Unit := do
  let (choices, _) ← options "LP" args
  let m ← get
  let isPhysical := (choices.getLast?.map (·.letter)) = some 'P'
  Run.write ((if isPhysical then physical m.disk else m.here) ++ ['\n'])
  Run.status 0

/-! ## Rights -/

/-- The classes of users that letters stand for, as the ones of their lowest bits. -/
def userClass : Char → Option Nat
  | 'a' => some 73
  | 'u' => some 64
  | 'g' => some 8
  | 'o' => some 1
  | _ => none

/-- The rights of one class that a letter stands for, given those that all classes have. -/
def rightsOf (given : Nat) : Char → Option Nat
  | 'r' => some 4
  | 'w' => some 2
  | 'x' => some 1
  | 'u' => some (given / 64)
  | 'g' => some (given / 8)
  | 'o' => some given
  | 'X' => some (if given &&& 73 = 0 then 0 else 1)
  | 's' => some 0
  | _ => none

/-- The bits of a number that another one does not have. -/
def without (a b : Nat) : Nat := a ^^^ (a &&& b)

/-- The rights that are given after a mode in letters, if it is one. -/
def symbolic (given : Nat) : Nat → (rights : Nat) → (classes : Nat) → Octets → Option Nat
  | 0, _, _, _ => none
  | n + 1, rights, classes, cs =>
    if cs.isEmpty then some rights
    else
      let users := cs.takeWhile fun c => (userClass c).isSome
      let classes := (users.filterMap userClass).foldl (· ||| ·) classes
      let classes := if classes = 0 then 73 else classes
      match cs.drop users.length with
      | op :: rest =>
        if !(['=', '+', '-'].contains op) then none
        else
          let letters := rest.takeWhile fun c => (rightsOf given c).isSome
          let asked := (((letters.filterMap (rightsOf given)).foldl (· ||| ·) 0) &&& 7) * classes
          let rights :=
            if op = '-' then without rights asked
            else if op = '=' then asked ||| without rights (classes * 7)
            else rights ||| asked
          match rest.drop letters.length with
          | [] => some rights
          | ',' :: behind => symbolic given n rights 0 behind
          | behind =>
            if behind.head?.any ['=', '+', '-'].contains then symbolic given n rights classes behind
            else none
      | [] => none

/-- Rights in letters. -/
def lettered (rights : Nat) : Octets :=
  let classes : List (Char × Nat) := [('u', 64), ('g', 8), ('o', 1)]
  let letters : List (Char × Nat) := [('r', 4), ('w', 2), ('x', 1)]
  Octets.join [','] (classes.map fun (user, place) =>
    [user, '='] ++ letters.filterMap fun (letter, bit) =>
      if rights &&& (bit * place) = 0 then none else some letter)

/-- A number as four octal digits. -/
def fourOctal (n : Nat) : Octets :=
  let ds := Nat.toDigits 8 n
  List.replicate (4 - ds.length) '0' ++ ds

/-- Write the rights that new files do not get, or set them. -/
def umask (args : List Octets) : Run Unit := do
  let (choices, rest) ← options "S" args
  let mask := (← get).mask
  match rest with
  | [] =>
    let shown := if choices.isEmpty then fourOctal mask else lettered (without 511 mask)
    Run.write (shown ++ ['\n'])
  | mode :: _ =>
    if mode.head?.any isDigit then
      if mode.all fun c => (digitIn? 8 c).isSome then
        modify fun m => { m with mask := numberIn 8 mode % 512 }
      else Run.fail ("Illegal number: ".toList ++ mode)
    else
      let given := without 511 mask
      match symbolic given (mode.length + 1) given 0 mode with
      | some rights => modify fun m => { m with mask := without 511 rights }
      | none => Run.fail ("Illegal mode: ".toList ++ mode)
  Run.status 0

end BulkSuppress.Shell.Builtin
