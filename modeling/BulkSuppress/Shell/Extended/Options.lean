import BulkSuppress.Shell.Extended.Declare
import BulkSuppress.Shell.Extended.Output

/-
  Setting options, switches and arguments in the extended dialect, and calculations as commands.
  Options are all looked at before the first one is set, so that a wrong one leaves everything as it
  is.
-/

namespace BulkSuppress.Shell.Extended

/-! ## Showing options -/

/-- A name with its state. -/
def stateLine (name : String) (on : Bool) : Octets :=
  name.toList ++ List.replicate (15 - name.length) ' ' ++ '\t' ::
    (if on then "on\n" else "off\n").toList

/-- The command that brings an option into its state. -/
def optionLine (name : String) (on : Bool) : Octets :=
  ((if on then "set -o " else "set +o ") ++ name ++ "\n").toList

/-- The command that brings a switch into its state. -/
def switchLine (name : String) (on : Bool) : Octets :=
  ((if on then "shopt -s " else "shopt -u ") ++ name ++ "\n").toList

/-- All options with their states, for reading or as commands. -/
def optionTable (m : Machine) (forReading : Bool) : Octets :=
  Switches.options.flatMap fun o =>
    (if forReading then stateLine else optionLine) o.1 (m.isSetByName o.1 o.2)

/-! ## Options -/

/-- Turn the option of a name on or off; the answer tells whether there is one. -/
def setByName (on : Bool) (name : Octets) : Run Bool := do
  match Switches.options.find? fun o => o.1.toList = name with
  | none => return false
  | some (name, letter) =>
    modify fun m => match letter with
      | some c => m.withChoice on c
      | none =>
        let m := if on && name = "vi" then m.withSwitch false "emacs"
          else if on && name = "emacs" then m.withSwitch false "vi"
          else m
        m.withSwitch on (Machine.switchOf name)
    return true

/-- The first letter that is no option in the arguments that options are set by. -/
def wrongLetter? : List Octets → Option (Char × Bool)
  | [] | ['-', '-'] :: _ | ['-'] :: _ => none
  | (sign :: letters) :: rest =>
    if sign = '-' || sign = '+' then
      match letters.find? fun c => c ≠ 'o' && !Switches.letters.contains c with
      | some c => some (c, sign = '+')
      | none =>
        let named := letters.contains 'o' &&
          (rest.head?.any fun cs => cs.head? ≠ some '-' && cs.head? ≠ some '+')
        match named, rest with
        | true, _ :: rest => wrongLetter? rest
        | _, rest => wrongLetter? rest
    else none
  | [] :: _ => none

/-- Set the options that letters and names say; the answer is the arguments behind them. -/
def setLetters (on : Bool) : Octets → List Octets → Run (Except Octets (List Octets))
  | [], rest => return .ok rest
  | 'o' :: letters, rest => do
    match rest with
    | name :: behind =>
      if name.head? = some '-' || name.head? = some '+' then
        Run.write (optionTable (← get) on)
        setLetters on letters rest
      else if ← setByName on name then setLetters on letters behind
      else return .error name
    | [] =>
      Run.write (optionTable (← get) on)
      setLetters on letters []
  | c :: letters, rest => do
    modify (·.withChoice on c)
    setLetters on letters rest

/-- Set options and arguments. -/
def setAll : Nat → List Octets → Run Unit
  | 0, _ | _, [] => return
  | bound + 1, args => do
    match args with
    | ['-'] :: rest =>
      modify fun m => (m.withChoice false 'x').withChoice false 'v'
      if !rest.isEmpty then modify fun m => { m with arguments := rest }
    | ['-', '-'] :: rest => modify fun m => { m with arguments := rest }
    | (sign :: letters) :: rest =>
      if sign = '-' || sign = '+' then
        match ← setLetters (sign = '-') letters rest with
        | .ok rest => setAll bound rest
        | .error name => refuse (name ++ ": invalid option name".toList) 2
      else modify fun m => { m with arguments := args }
    | _ => modify fun m => { m with arguments := args }

/-- Set options and arguments; without any, write the variables. -/
def settings (args : List Octets) : Run Unit := do
  match args, wrongLetter? args with
  | [], _ =>
    Run.write (assignments (← get))
    Run.status 0
  | _, some (letter, isOff) =>
    Run.warn ([if isOff then '+' else '-', letter] ++ ": invalid option".toList)
    usage "set"
  | args, none =>
    Run.status 0
    setAll args.length args

/-! ## Switches -/

/-- Turn switches on or off, or tell their states. -/
def switches (args : List Octets) : Run Unit :=
  withOptions "shopt" "psuoq" args fun choices rest => do
    let m ← get
    let (sets, unsets, quiet) := (has choices 's', has choices 'u', has choices 'q')
    let asCommands := has choices 'p'
    let byName := has choices 'o'
    let all : List (String × Bool) :=
      if byName then Switches.options.map fun o => (o.1, m.isSetByName o.1 o.2)
      else Switches.names.map fun name => (name, m.isOn name)
    let line := if !asCommands then stateLine else if byName then optionLine else switchLine
    let unknown (name : Octets) : Run Unit :=
      refuse (name ++ (if byName then ": invalid option name"
        else ": invalid shell option name").toList)
    Run.status 0
    if sets && unsets then refuse "cannot set and unset shell options simultaneously".toList
    else if rest.isEmpty then
      let shown := all.filter fun x => (!sets || x.2) && (!unsets || !x.2)
      if !quiet then Run.write (shown.flatMap fun x => line x.1 x.2)
    else
      for name in rest do
        match all.find? fun x => x.1.toList = name with
        | none => unknown name
        | some (known, on) =>
          if sets || unsets then
            if byName then
              let _ ← setByName sets name
            else modify (·.withSwitch sets known)
          else
            if !quiet then Run.write (line known on)
            if !on then Run.status 1

/-! ## Arguments and calculations -/

/-- The number of an argument that has to be one; more than one argument ends the line. -/
def countArgument (args : List Octets) : Run (Option Int) := do
  match behindDashes args with
  | [] => return some 1
  | [cs] =>
    match number? cs with
    | some n => return some n
    | none =>
      refuse (cs ++ ": numeric argument required".toList)
      return none
  | _ => discarded "too many arguments".toList

/-- Drop arguments at the front. -/
def shift (args : List Octets) : Run Unit := do
  match ← countArgument args with
  | none => return
  | some n =>
    let m ← get
    if n < 0 then
      refuse ((behindDashes args).headD [] ++ ": shift count out of range".toList)
    else if (m.arguments.length : Int) < n then
      if m.isOn "shift_verbose" then
        Run.warn ((toString n).toList ++ ": shift count out of range".toList)
      Run.status 1
    else
      modify fun m => { m with arguments := m.arguments.drop n.toNat }
      Run.status 0

/-- Calculate arguments; the last one decides. -/
def calculate (args : List Octets) : Run Unit := do
  match behindDashes args with
  | [] => refuse "expression expected".toList
  | rest =>
    let act : Run Unit := do
      let mut last : Int := 0
      for cs in rest do last ← Calculation.value cs
      Run.status (if last = 0 then 1 else 0)
    match ← Run.observed act with
    | .error .discarded => Run.status 1
    | .error e => throw e
    | .ok () => return

/-! ## Options -/

/-- What has been found of an option. -/
structure Found where
  letter : Octets
  value : Option Octets := none
  /-- The number of the next argument, and the place in it. -/
  index : Nat
  place : Nat := 0
  status : Nat := 0
  /-- What is wrong with it. -/
  complaint : Option String := none

/-- The option at a place of the arguments. -/
def optionAt (letters : Octets) (silent : Bool) (given : List Octets) (index place : Nat) : Found :=
  let word := given[index - 1]?.getD []
  let isNone := place = 0 && (word.length < 2 || word.head? ≠ some '-' || word = ['-', '-'])
  if isNone then
    { letter := ['?'], index := if word = ['-', '-'] then index + 1 else index, status := 1 }
  else
    let place := max 1 place
    let c := word[place]?.getD '?'
    let behind := letters.dropWhile (· ≠ c)
    let isLast := word.length ≤ place + 1
    let (nextIndex, nextPlace) := if isLast then (index + 1, 0) else (index, place + 1)
    if c = ':' || behind.isEmpty then
      if silent then { letter := ['?'], value := some [c], index := nextIndex, place := nextPlace }
      else
        { letter := ['?'], index := nextIndex, place := nextPlace
          complaint := some ("illegal option -- " ++ String.ofList [c]) }
    else if behind.tail.head? ≠ some ':' then
      { letter := [c], index := nextIndex, place := nextPlace }
    else if !isLast then { letter := [c], value := some (word.drop (place + 1)), index := index + 1 }
    else
      match given[index]? with
      | some value => { letter := [c], value := some value, index := index + 2 }
      | none =>
        if silent then { letter := [':'], value := some [c], index := index + 1 }
        else
          { letter := ['?'], index := index + 1
            complaint := some ("option requires an argument -- " ++ String.ofList [c]) }

/-- Take the next option out of arguments. -/
def getopts (args : List Octets) : Run Unit := do
  match args with
  | ('-' :: c :: _) :: _ =>
    if args.head? ≠ some ['-', '-'] then
      Run.warn (['-', c] ++ ": invalid option".toList)
      usage "getopts"
    else taken (args.drop 1)
  | args => taken args
where
  /-- Take the next option, given the letters, the name for it, and the arguments. -/
  taken : List Octets → Run Unit
    | letters :: name :: given' => do
      let m ← get
      let all := if given'.isEmpty then m.arguments else given'
      let index := max 1 ((m.value? "OPTIND").bind decimal? |>.getD 1)
      let silent := letters.head? = some ':'
      let found := optionAt letters silent all index m.bundled
      match found.complaint with
      | some text =>
        if m.value? "OPTERR" ≠ some ['0'] then
          Run.complain (m.name ++ ": ".toList ++ text.toList)
      | none => pure ()
      match found.value with
      | some cs => Run.assign "OPTARG" cs
      | none => modify (·.withVariable "OPTARG" none)
      Run.assign "OPTIND" (toString found.index).toList
      modify fun m => { m with bundled := found.place }
      if !isName name then refuse (inTicks name ++ ": not a valid identifier".toList)
      else if ← given name found.letter then Run.status found.status
    | _ => usage "getopts"

end BulkSuppress.Shell.Extended
