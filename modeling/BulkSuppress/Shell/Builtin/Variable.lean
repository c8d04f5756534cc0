import BulkSuppress.Shell.Builtin.Arguments
import BulkSuppress.Shell.Pattern

/-
  Variables, options and arguments of the shell, and the commands that declare and set them. A line
  is read into variables by parting its text into as many fields as there are names; the last one
  takes what is left.
-/

namespace BulkSuppress.Shell.Builtin

/-! ## Variables -/

/-- The name and the value of a text that may be an assignment. -/
def assignmentIn (cs : Octets) : Octets × Option Octets :=
  let name := cs.takeWhile (· ≠ '=')
  (name, if name.length < cs.length then some (cs.drop (name.length + 1)) else none)

/-- The name as a text; one that variables cannot have ends the script. -/
def variableName (cs : Octets) : Run String := do
  if isName cs then return String.ofList cs
  else Run.fail (cs ++ ": bad variable name".toList)

/-- The variables, in order of their names, as commands that declare them. -/
def declarations (m : Machine) (word : Octets) (p : Variable → Bool) : Octets :=
  let shown := (m.bindings.filter fun v => p v.2).mergeSort fun a b => a.1 ≤ b.1
  shown.flatMap fun v =>
    (if word.isEmpty then [] else word ++ [' ']) ++ v.1.toList ++
      (match v.2.value with
        | some cs => '=' :: inQuotes cs
        | none => []) ++ ['\n']

/-- Mark variables, which may get values too. -/
def declare (word : String) (p : Variable → Bool) (mark : Variable → Variable)
    (args : List Octets) : Run Unit := do
  let (choices, rest) ← options "p" args
  if !choices.isEmpty || rest.isEmpty then Run.write (declarations (← get) word.toList p)
  else
    for cs in rest do
      let (name, value) := assignmentIn cs
      let name ← variableName name
      match value with
      | some value => Run.assign name value
      | none => pure ()
      modify fun m =>
        m.withVariable name (some (mark ((m.binding? name).getD {})))
  Run.status 0

/-- Have programs get variables. -/
def exports : List Octets → Run Unit :=
  declare "export" (·.exported) fun v => { v with exported := true }

/-- Keep variables as they are. -/
def readonly : List Octets → Run Unit :=
  declare "readonly" (·.readOnly) fun v => { v with readOnly := true }

/-- Have variables of the function that is running get their values back when it ends. -/
def locals (args : List Octets) : Run Unit := do
  match (← get).saved with
  | [] => Run.fail "not in a function".toList
  | _ =>
    for cs in args do
      if cs ≠ ['-'] then
        let (name, value) := assignmentIn cs
        let name ← variableName name
        modify fun m => { m with saved := match m.saved with
          | frame :: frames =>
            (if (frame.lookup name).isSome then frame
              else (name, m.binding? name) :: frame) :: frames
          | [] => [] }
        match value with
        | some value => Run.assign name value
        | none => pure ()
    Run.status 0

/-- Forget variables or functions. -/
def unset (args : List Octets) : Run Unit := do
  let (choices, rest) ← options "vf" args
  if (choices.getLast?.map (·.letter)) = some 'f' then
    modify fun m => { m with
      functions := m.functions.filter fun f => !rest.contains f.1.toList }
  else
    for cs in rest do
      let name ← variableName cs
      if ((← get).binding? name).any (·.readOnly) then Run.fail (cs ++ ": is read only".toList)
      modify (·.withVariable name none)
  Run.status 0
/-! ## Parameters -/

/-- Set an option of the shell, or put it back. -/
def withOption (on : Bool) (letter : Char) (m : Machine) : Machine :=
  let others := m.options.filter (· ≠ letter)
  { m with options := if on then letter :: others else others }

/-- All options and whether they are set, for reading or as commands. -/
def optionTable (m : Machine) (forReading : Bool) : Octets :=
  let names := Machine.optionNames.map fun o => (o.2, m.has o.1)
  let names := names ++ [("nolog", false), ("debug", false)]
  if forReading then
    "Current option settings\n".toList ++ names.flatMap fun o =>
      o.1.toList ++ List.replicate (16 - o.1.length) ' ' ++ (if o.2 then "on\n" else "off\n").toList
  else names.flatMap fun o => ("set " ++ (if o.2 then "-o " else "+o ") ++ o.1 ++ "\n").toList

/-- Set options by their letters, of which one asks for a name. -/
def setOptions (on : Bool) (letters : Octets) (rest : List Octets) : Run (List Octets) :=
  match letters with
  | [] => return rest
  | 'o' :: letters => do
    match rest with
    | [] =>
      Run.write (optionTable (← get) on)
      setOptions on letters []
    | name :: rest =>
      match Machine.optionNames.find? fun o => o.2.toList = name with
      | some o => modify (withOption on o.1)
      | none =>
        if name ≠ "nolog".toList && name ≠ "debug".toList then
          Run.fail ("Illegal option -o ".toList ++ name)
      setOptions on letters rest
  | c :: letters => do
    if (Machine.optionNames.lookup c).isNone || c = 'p' then
      Run.fail ("Illegal option -".toList ++ [c])
    modify (withOption on c)
    setOptions on letters rest

/-- Set options and arguments. -/
def setAll (bound : Nat) (args : List Octets) : Run Unit :=
  match bound, args with
  | 0, _ | _, [] => return
  | bound + 1, cs :: rest => do
    match cs with
    | ['-'] =>
      modify fun m => withOption false 'v' (withOption false 'x' m)
      if !rest.isEmpty then modify fun m => { m with arguments := rest }
    | ['-', '-'] => modify fun m => { m with arguments := rest }
    | '-' :: letters => setAll bound (← setOptions true letters rest)
    | '+' :: letters => setAll bound (← setOptions false letters rest)
    | _ => modify fun m => { m with arguments := args }

/-- Set options and arguments; without any, write the variables. -/
def settings (args : List Octets) : Run Unit := do
  if args.isEmpty then Run.write (declarations (← get) [] fun v => v.value.isSome)
  setAll args.length args
  Run.status 0

/-- Drop arguments at the front. -/
def shift (args : List Octets) : Run Unit := do
  let n ← match args with
    | [] => pure 1
    | cs :: _ => number cs
  if (← get).arguments.length < n then Run.fail "can't shift that many".toList
  modify fun m => { m with arguments := m.arguments.drop n, bundled := 0 }
  Run.status 0

/-- Take the next option out of arguments. -/
def getopts (args : List Octets) : Run Unit := do
  match args with
  | letters :: name :: given =>
    let name ← variableName name
    let m ← get
    let given := if given.isEmpty then m.arguments else given
    let index := max 1 ((m.value? "OPTIND").bind decimal? |>.getD 1)
    let silent := letters.head? = some ':'
    let finish (index place : Nat) (letter : Octets) (value : Option Octets) (status : Nat) :
        Run Unit := do
      match value with
      | some cs => Run.assign "OPTARG" cs
      | none => modify (·.withVariable "OPTARG" none)
      Run.assign "OPTIND" (toString index).toList
      Run.assign name letter
      modify fun m => { m with bundled := place }
      Run.status status
    let word := given[index - 1]?.getD []
    let place := if m.bundled = 0 then 1 else m.bundled
    if m.bundled = 0 && (word.length < 2 || word.head? ≠ some '-' || word = ['-', '-']) then
      finish (if word = ['-', '-'] then index + 1 else index) 0 ['?'] none 1
    else
      let c := word[place]?.getD '?'
      let behind := letters.dropWhile (· ≠ c)
      let isLast := word.length ≤ place + 1
      let after := if isLast then (index + 1, 0) else (index, place + 1)
      if c = ':' || behind.isEmpty then
        if silent then finish after.1 after.2 ['?'] (some [c]) 0
        else
          Run.complain ("Illegal option -".toList ++ [c])
          finish after.1 after.2 ['?'] none 0
      else if behind.tail.head? ≠ some ':' then finish after.1 after.2 [c] (some []) 0
      else if !isLast then finish (index + 1) 0 [c] (some (word.drop (place + 1))) 0
      else
        match given[index]? with
        | some value => finish (index + 2) 0 [c] (some value) 0
        | none =>
          if silent then finish (index + 1) 0 [':'] (some [c]) 0
          else
            Run.complain ("No arg for -".toList ++ [c] ++ " option".toList)
            finish (index + 1) 0 ['?'] none 0
  | _ => Run.fail "Usage: getopts optstring var [arg]".toList

/-! ## Reading a line -/

/-- The text of a line without escapes, in which what was escaped is marked, and what is behind. -/
def escapedLine (raw : Bool) : Octets → List Marked × Nat × Bool
  | [] => ([], 0, false)
  | '\n' :: _ => ([], 1, true)
  | '\\' :: c :: rest =>
    let r := escapedLine raw rest
    if raw then
      if c = '\n' then ([('\\', false)], 2, true)
      else (('\\', false) :: (c, false) :: r.1, r.2.1 + 2, r.2.2)
    else if c = '\n' then (r.1, r.2.1 + 2, r.2.2)
    else ((c, true) :: r.1, r.2.1 + 2, r.2.2)
  | c :: rest =>
    let r := escapedLine raw rest
    if c = '\x00' then (r.1, r.2.1 + 1, r.2.2) else ((c, false) :: r.1, r.2.1 + 1, r.2.2)

/-- The octet parts fields, and is a blank. -/
def isBlankSeparator (separators : Octets) (m : Marked) : Bool :=
  !m.2 && separators.contains m.1 && " \t\n".toList.contains m.1

/-- The first field of a line, and what is behind it and its separator. -/
def firstField (separators : Octets) (line : List Marked) : List Marked × List Marked :=
  let parts (m : Marked) : Bool := !m.2 && separators.contains m.1
  let field := line.takeWhile fun m => !parts m
  let rest := (line.drop field.length).dropWhile (isBlankSeparator separators)
  match rest with
  | m :: after =>
    if parts m then (field, after.dropWhile (isBlankSeparator separators)) else (field, rest)
  | [] => (field, [])

/-- What is left of a line for the last field. -/
def lastField (separators : Octets) (line : List Marked) : List Marked :=
  let trimmed := (line.reverse.dropWhile (isBlankSeparator separators)).reverse
  let (field, rest) := firstField separators trimmed
  if rest.isEmpty then field else trimmed

/-- The fields of a line, one for each of so many variables. -/
def fieldsFor (separators : Octets) : Nat → List Marked → List Octets
  | 0, _ => []
  | 1, line => [(lastField separators line).map (·.1)]
  | n + 1, line =>
    let (field, rest) := firstField separators line
    field.map (·.1) :: fieldsFor separators n rest

/-- Read a line into variables. -/
def read (args : List Octets) : Run Unit := do
  let (choices, names) ← options "p:r" args
  if names.isEmpty then Run.fail "arg count".toList
  match (← get).channel? 0 with
  | none => Run.status 1
  | some (n, _) =>
    let raw := choices.any fun c => c.letter = 'r'
    let (line, count, ended) := escapedLine raw ((← get).unread n)
    modify fun m => if ended then m.afterReading n count else m.afterEnd n
    let separators := (← get).separators
    let fields := fieldsFor separators names.length
      (line.dropWhile (isBlankSeparator separators))
    for (name, value) in names.zip fields do
      Run.assign (← variableName name) value
    Run.status (if ended then 0 else 1)
end BulkSuppress.Shell.Builtin
