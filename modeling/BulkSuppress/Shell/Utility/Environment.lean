import BulkSuppress.Shell.Signal
import BulkSuppress.Shell.Utility.Output

/-
  The environment of programs: running a program in another one, and writing what is in it. The
  options of a program that runs in another environment can stand in a text that is split into words
  first, as the line that names an interpreter has room for one argument only.
-/

namespace BulkSuppress.Shell.Utility

namespace Environment

/-! ## Texts that are split into words -/

/-- The words of a text so far. -/
structure Splitting where
  /-- The words that are complete, last first. -/
  words : List Octets := []
  /-- The word that is being read, if one is. -/
  word : Option Octets := none
  quote : Option Char := none
  /-- What can be told about variables on the way, last first. -/
  told : List Octets := []

namespace Splitting

/-- The splitting with more octets in the present word. -/
def put (s : Splitting) (cs : Octets) : Splitting := { s with word := some (s.word.getD [] ++ cs) }

/-- The splitting behind the present word. -/
def parted (s : Splitting) : Splitting :=
  { s with words := s.word.toList ++ s.words, word := none }

/-- The words. -/
def all (s : Splitting) : List Octets := s.parted.words.reverse

end Splitting

/-- The name of the variable in braces that follow a sign, and what is behind them. -/
def braced? (cs : Octets) : Option (Octets × Octets) :=
  match cs with
  | '\x7b' :: rest =>
    let name := rest.takeWhile isNameChar
    match rest.drop name.length with
    | '\x7d' :: behind => if isName name then some (name, behind) else none
    | _ => none
  | _ => none

/-- What is behind the braces is no longer than all of it. -/
theorem length_braced? {cs name behind : Octets} (h : braced? cs = some (name, behind)) :
    behind.length < cs.length := by
  unfold braced? at h
  split at h
  · next rest =>
    dsimp only at h
    split at h
    · next heq =>
      split at h
      · cases h
        have : (rest.drop (rest.takeWhile isNameChar).length).length ≤ rest.length := by simp
        rw [heq] at this
        simp only [List.length_cons] at this ⊢
        omega
      · cases h
    · cases h
  · cases h

/-- The octet that a letter behind a backslash stands for. -/
def escapes : List (Char × Char) :=
  [('"', '"'), ('#', '#'), ('$', '$'), ('\'', '\''), ('\\', '\\'), ('f', '\x0c'), ('n', '\n'),
    ('r', '\r'), ('t', '\t'), ('v', '\x0b')]

/-- Split a text into words, given the values of variables; it may be that it makes no sense. -/
def split (value? : String → Option Octets) (s : Splitting) (cs : Octets) :
    Except Octets Splitting :=
  match cs with
  | [] =>
    if s.quote.isSome then .error "no terminating quote in -S string".toList else .ok s
  | c :: rest =>
    let isBlank := c = ' ' || ('\t' ≤ c && c ≤ '\r')
    if (c = '\'' || c = '"') && (s.quote = none || s.quote = some c) then
      let quote := if s.quote = none then some c else none
      split value? { s.put [] with quote } rest
    else if isBlank && s.quote = none then split value? s.parted rest
    else if c = '#' && s.quote = none && s.word = none then .ok s
    else if c = '\\' then
      match rest with
      | [] =>
        if s.quote = some '\'' then split value? (s.put [c]) []
        else .error "invalid backslash at end of string in -S".toList
      | d :: more =>
        if s.quote = some '\'' && d ≠ '\\' && d ≠ '\'' then split value? (s.put [c]) (d :: more)
        else if d = '_' then
          split value? (if s.quote = some '"' then s.put [' '] else s.parted) more
        else if d = 'c' then
          if s.quote = some '"' then
            .error "'\\c' must not appear in double-quoted -S string".toList
          else .ok s
        else
          match escapes.lookup d with
          | some e => split value? (s.put [e]) more
          | none => .error ("invalid sequence '\\".toList ++ [d] ++ "' in -S".toList)
    else if c = '$' && s.quote ≠ some '\'' then
      match h : braced? rest with
      | none =>
        .error ("only $\x7bVARNAME\x7d expansion is supported, error at: ".toList ++ (c :: rest))
      | some (name, behind) =>
        have := length_braced? h
        let shown := "$\x7b".toList ++ name ++ ['\x7d']
        match value? (String.ofList name) with
        | some v =>
          split value? { s.put v with
            told := ("expanding ".toList ++ shown ++ " into ".toList ++ quoted v) :: s.told } behind
        | none =>
          split value? { s with
            told := ("replacing ".toList ++ shown ++ " with null string".toList) :: s.told } behind
    else split value? (s.put [c]) rest
termination_by cs.length
decreasing_by all_goals simp only [List.length_cons, List.length_nil] at *; omega

/-! ## Options -/

/-- What becomes of a signal. -/
inductive Reaction where
  | byDefault
  | ignored
deriving DecidableEq, Repr

/-- What the options ask for. -/
structure Plan where
  startsEmpty : Bool := false
  unset : List Octets := []
  directory : Option Octets := none
  endsInZeros : Bool := false
  /-- What is done is told. -/
  tells : Bool := false
  listsSignals : Bool := false
  /-- What becomes of signals; one that was not named must not be refused. -/
  reactions : List (Nat × Reaction × Bool) := []
  blocked : List Nat := []

/-- The options that there are. -/
def options : Options :=
  { name := "env", letters := "iu:C:S:v0δ::ι::β::λ", inFront := true, failure := 125
    longs := [("ignore-environment", 'i'), ("null", '0'), ("unset", 'u'), ("chdir", 'C'),
      ("default-signal", 'δ'), ("ignore-signal", 'ι'), ("block-signal", 'β'),
      ("list-signal-handling", 'λ'), ("debug", 'v'), ("split-string", 'S')] }

/-- Reading options, which may end early with a status. -/
abbrev Reading := ExceptT Nat (StateT Plan Run)

/-- Tell something, if that is asked for. -/
def tell (p : Plan) (cs : Octets) : Run Unit := do
  if p.tells then Run.complain cs

/-- End with a complaint. -/
def deny {α : Type} (why : Octets) (hints : Bool) : Reading α := do
  (complain "env" why : Run Unit)
  if hints then (hint "env" : Run Unit)
  throw 125

/-- The signals that have names. -/
def allSignals : List Nat := (List.range Signal.limit).filter fun n =>
  n ≠ 0 && (Signal.spelling? n).isSome

/-- The signals that an option names, with whether it does that one by one. -/
def signalsOf (value : Octets) : Reading (List Nat × Bool) := do
  if value.isEmpty then return (allSignals, false)
  else
    let names := (Text.pieces ',' value).filter fun cs => !cs.isEmpty
    let numbers ← names.mapM fun cs => match Signal.spelled? cs with
      | some (n + 1) => pure (n + 1)
      | _ => deny (quoted cs ++ ": invalid signal".toList) true
    return (numbers, true)

/-- Follow an option that takes no other place in the arguments. -/
def follow (c : Choice) : Reading Unit := do
  match c.letter with
  | 'i' => modify fun p => { p with startsEmpty := true }
  | 'u' => modify fun p => { p with unset := p.unset ++ [c.value] }
  | 'v' => modify fun p => { p with tells := true }
  | '0' => modify fun p => { p with endsInZeros := true }
  | 'C' => modify fun p => { p with directory := some c.value }
  | 'λ' => modify fun p => { p with listsSignals := true }
  | 'β' =>
    let (numbers, _) ← signalsOf c.value
    modify fun p => { p with blocked := p.blocked ++ numbers }
  | letter =>
    let (numbers, isNamed) ← signalsOf c.value
    let isDefault := letter = 'δ'
    let kept (p : Plan) := p.reactions.filter fun r => !numbers.contains r.1
    modify fun p => { p with
      reactions := kept p ++ numbers.map fun n =>
        (n, if isDefault then .byDefault else .ignored, isNamed)
      blocked := if isDefault then p.blocked.filter fun n => !numbers.contains n else p.blocked }

/-- Read options at the front of arguments, and give what is behind them. -/
def readOptions : Nat → List Octets → Reading (List Octets)
  | 0, args => return args
  | n + 1, args => do
    let read (result : Except Stop (List Choice × Bool)) (rest : List Octets) :
        Reading (List Octets) := do
      match result with
      | .error stop => throw (← (stopped options stop : Run Nat))
      | .ok (choices, usesNext) =>
        let rest := rest.drop (if usesNext then 1 else 0)
        for c in choices do
          if c.letter ≠ 'S' then follow c
        match choices.getLast? with
        | some ⟨'S', text⟩ =>
          let m ← getThe Machine
          match split (m.environment.lookup ·) {} text with
          | .error why => deny why false
          | .ok s =>
            let p ← get
            for cs in s.told.reverse do (tell p cs : Run Unit)
            match s.all with
            | [] => readOptions n rest
            | first :: more =>
              (tell p ("split -S:  ".toList ++ quoted text) : Run Unit)
              (tell p (" into:    ".toList ++ quoted first) : Run Unit)
              for cs in more do (tell p ("     &    ".toList ++ quoted cs) : Run Unit)
              readOptions n (first :: more ++ rest)
        | _ => readOptions n rest
    match args with
    | ['-', '-'] :: rest => return rest
    | ('-' :: '-' :: c :: cs) :: rest =>
      read ((options.long rest.head? (c :: cs)).map fun r => ([r.1], r.2)) rest
    | ('-' :: c :: cs) :: rest =>
      match options.bundled rest.head? (c :: cs) with
      | .error (.complaint why) =>
        (complain "env" why : Run Unit)
        if why.getLast? = some '\'' && (why.dropLast).getLast?.any (fun c => c = ' ' ||
            ('\t' ≤ c && c ≤ '\r')) then
          (complain "env" "use -[v]S to pass options in shebang lines".toList : Run Unit)
        (hint "env" : Run Unit)
        throw 125
      | result => read result rest
    | args => return args

/-! ## The environment -/

/-- Have signals be treated as the plan says. -/
def setSignals (p : Plan) : Reading Unit := do
  for n in allSignals do
    match p.reactions.lookup n with
    | none => pure ()
    | some (reaction, isNamed) =>
      if isNamed && Signal.unavoidable.contains n then
        deny ("failed to set signal action for signal ".toList ++ decimal n ++
          ": Invalid argument".toList) false
      let others (m : Machine) := m.traps.filter fun t => t.1 ≠ Signal.name n
      let own : List (String × Octets) :=
        if reaction = .ignored && !Signal.unavoidable.contains n then [(Signal.name n, [])] else []
      modifyThe Machine fun m => { m with traps := own ++ others m }
      (tell p ("Reset signal ".toList ++ ((Signal.spelling? n).getD "").toList ++ " (".toList ++
        decimal n ++ ") to ".toList ++
        (if reaction = .ignored then "IGNORE" else "DEFAULT").toList ++
        (if Signal.unavoidable.contains n then " (failure ignored)" else "").toList) : Run Unit)

/-- List the signals that are not treated as they are by default. -/
def listSignals (p : Plan) : Run Unit := do
  let m ← get
  for n in allSignals do
    if !Signal.unavoidable.contains n then
      let name := ((Signal.spelling? n).getD "").toList
      let isIgnored := m.traps.lookup (Signal.name n) = some []
      let states := (if p.blocked.contains n then ["BLOCK".toList] else []) ++
        if isIgnored then ["IGNORE".toList] else []
      if !states.isEmpty then
        Run.complain (name ++ List.replicate (10 - name.length) ' ' ++ " (".toList ++
          padLeft 2 (decimal n) ++ "): ".toList ++ Octets.join [','] states)

/-- Go to a directory. -/
def enter (p : Plan) (directory : Octets) : Reading Unit := do
  (tell p ("chdir:    ".toList ++ shellQuoted directory) : Run Unit)
  let m ← getThe Machine
  let place : Except SystemError Location := do
    if directory.isEmpty then throw .notFound
    let loc ← m.disk.resolve ⟨Octets.toText directory⟩
    if m.disk.isDirectoryAt loc then return loc else throw .notDirectory
  match place with
  | .ok loc => set { m with disk := { m.disk with workingDirectory := loc } }
  | .error e =>
    deny ("cannot change directory to ".toList ++ shellQuoted directory ++ ": ".toList ++
      (reasonOf e).toList) false

/-- The name of a variable and its value as a setting spells them. -/
def settingOf (cs : Octets) : String × Octets :=
  let name := cs.takeWhile (· ≠ '=')
  (String.ofList name, cs.drop (name.length + 1))

/-- Have the environment be as the plan says. -/
def prepare (p : Plan) : Reading Unit := do
  if p.startsEmpty then
    (tell p "cleaning environ".toList : Run Unit)
    modifyThe Machine fun m => { m with bindings := m.bindings.filter fun v => !v.2.exported }
  else
    for name in p.unset do
      (tell p ("unset:    ".toList ++ name) : Run Unit)
      if name.isEmpty || name.contains '=' then
        deny ("cannot unset ".toList ++ quoted name ++ ": Invalid argument".toList) false
      modifyThe Machine (·.withVariable (String.ofList name) none)

/-- Run a program in another environment, or write the environment. -/
def run (call : Caller) (args : List Octets) : Reading Nat := do
  let operands ← readOptions (8 * args.length + 64) args
  let isLone := operands.head? = some ['-']
  if isLone then modify fun p => { p with startsEmpty := true }
  let operands := if isLone then operands.drop 1 else operands
  let p ← get
  prepare p
  let settings := operands.takeWhile (·.contains '=')
  for cs in settings do
    (tell p ("setenv:   ".toList ++ cs) : Run Unit)
    let (name, value) := settingOf cs
    modifyThe Machine (·.withVariable name (some { value, exported := true }))
  match operands.drop settings.length with
  | [] =>
    if p.directory.isSome then deny "must specify command with --chdir (-C)".toList true
    let ending := if p.endsInZeros then '\x00' else '\n'
    for (name, value) in (← getThe Machine).environment do
      (Run.write (name.toList ++ ['='] ++ value ++ [ending]) : Run Unit)
    return 0
  | name :: rest =>
    if p.endsInZeros then deny "cannot specify --null (-0) with command".toList true
    setSignals p
    if p.listsSignals then (listSignals p : Run Unit)
    match p.directory with
    | some directory => enter p directory
    | none => pure ()
    (tell p ("executing: ".toList ++ name) : Run Unit)
    for (cs, i) in (name :: rest).zipIdx do
      (tell p ("   arg[".toList ++ decimal i ++ "]= ".toList ++ quoted cs) : Run Unit)
    match ← (called call name rest : Run (Except SystemError Nat)) with
    | .ok status => return status
    | .error e =>
      (complainAbout "env" (quoted name) e : Run Unit)
      if e = .notFound && name.contains ' ' then
        (complain "env" "use -[v]S to pass options in shebang lines".toList : Run Unit)
      return statusWithout e

end Environment

/-- Run a program in another environment. -/
def env (call : Caller) : Action := fun args => do
  match ← ((Environment.run call args).run).run {} with
  | (.ok status, _) | (.error status, _) => return status

/-- Write the environment, or the values of variables. -/
def printenv : Action := fun args =>
  withOptions { name := "printenv", letters := "iu:0", longs := [("null", '0')], inFront := true
                failure := 2 } args
    fun choices operands => do
    let ending := if chosen choices "0" then '\x00' else '\n'
    let environment := (← get).environment
    if operands.isEmpty then
      for (name, value) in environment do Run.write (name.toList ++ ['='] ++ value ++ [ending])
      return 0
    else
      let mut status := 0
      for name in operands do
        match environment.lookup (String.ofList name) with
        | some value => Run.write (value ++ [ending])
        | none => status := 1
      return status

end BulkSuppress.Shell.Utility
