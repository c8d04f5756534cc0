import BulkSuppress.Shell.Calendar
import BulkSuppress.Shell.Extended.Assign
import BulkSuppress.Shell.Format

/-
  Writing in the extended dialect. The output of a command goes out line by line, so that what is
  wrong with an argument is told behind the lines that were written before it.
-/

namespace BulkSuppress.Shell.Extended

/-! ## Escapes -/

/-- Where escapes stand. -/
inductive EscapePlace where
  /-- In the arguments of a command that writes them. -/
  | echoed
  /-- In the argument of a format. -/
  | argument
  | format
deriving DecidableEq, Repr

/-- The octets that an escape behind its backslash stands for, and what is behind it. -/
def escapeAt (place : EscapePlace) (cs : Octets) : Octets × Octets :=
  match cs with
  | [] => (['\\'], [])
  | c :: rest =>
    let octal (most : Nat) (digits : Octets) : Octets × Octets :=
      let (n, length) := Words.leadingNumber 8 most digits
      ([Format.octetOf n], digits.drop length)
    if c = '0' then if place = .format then octal 3 cs else octal 3 rest
    else if c = '\'' || c = '"' || c = '?' then
      (if place = .format then [c] else ['\\', c], rest)
    else if (digitIn? 8 c).isSome then
      if place = .echoed then (['\\', c], rest) else octal 3 cs
    else if c = 'c' then (['\\', c], rest)
    else
      let (found, length) := Words.escapeSpelled cs
      (found, cs.drop length)

/-- The octets of a text with escapes, and whether it asks for an end of all output. -/
def unescaped (place : EscapePlace) : Nat → Octets → Octets × Bool
  | 0, _ | _, [] => ([], false)
  | _ + 1, '\\' :: 'c' :: _ => ([], true)
  | n + 1, '\\' :: rest =>
    let (cs, behind) := escapeAt place rest
    let r := unescaped place n behind
    (cs ++ r.1, r.2)
  | n + 1, c :: rest =>
    let r := unescaped place n rest
    (c :: r.1, r.2)

/-! ## Writing arguments -/

/-- The options of a command that writes its arguments, and the arguments. -/
def echoOptions (lineEnd escapes : Bool) : List Octets → Bool × Bool × List Octets
  | ('-' :: c :: cs) :: rest =>
    let letters := c :: cs
    if letters.all "neE".toList.contains then
      let escapes := letters.foldl
        (fun e c => if c = 'e' then true else if c = 'E' then false else e) escapes
      echoOptions (lineEnd && !letters.contains 'n') escapes rest
    else (lineEnd, escapes, ('-' :: letters) :: rest)
  | args => (lineEnd, escapes, args)

/-- Write the arguments with blanks between them. -/
def echo (args : List Octets) : Run Unit := do
  let (lineEnd, escapes, rest) := echoOptions true ((← get).isOn "xpg_echo") args
  let text := Octets.join [' '] rest
  let (cs, stopped) := if escapes then unescaped .echoed (text.length + 1) text else (text, false)
  Run.write (cs ++ if lineEnd && !stopped then ['\n'] else [])
  Run.status 0

/-! ## Giving values -/

/-- Give what a text names a value; the answer tells whether that was possible. -/
def given (target value : Octets) (wrongStatus : Nat := 1) : Run Bool := do
  let slot := Slot.ofText target
  if !isName slot.name.toList then
    refuse (inTicks target ++ ": not a valid identifier".toList) wrongStatus
    return false
  else
    let before := (← get).builtin
    modify fun m => { m with builtin := none }
    let r ← Run.observed (Setting.make { slot, given := .text value })
    modify fun m => { m with builtin := before }
    match r with
    | .error .discarded => return false
    | .error e => throw e
    | .ok () => return true

/-- Give an array its values, behind those that it has if its old ones stay. -/
def givenItems (name : Octets) (values : List Octets) : Run Bool := do
  let before := (← get).builtin
  modify fun m => { m with builtin := none }
  let setting : Setting :=
    { slot := ⟨String.ofList name, none⟩, given := .items (values.map fun value => { value }) }
  let r ← Run.observed setting.make
  modify fun m => { m with builtin := before }
  match r with
  | .error .discarded => return false
  | .error e => throw e
  | .ok () => return true

/-! ## Formats -/

/-- The wording of what is wrong with a format or an argument. -/
def faultText : Format.Fault → Octets
  | .notNumeric cs | .incomplete cs =>
    let kind := match cs with
      | '0' :: c :: _ => if isDigit c then "octal " else if c = 'x' || c = 'X' then "hex " else ""
      | _ => ""
    cs ++ (": invalid " ++ kind ++ "number").toList
  | .outOfRange cs => "warning: ".toList ++ cs ++ ": Numerical result out of range".toList
  | .badDirective cs => inTicks (cs.getLast?.toList) ++ ": invalid format character".toList
  | .noLetter cs => inTicks cs ++ ": missing format character".toList

/-- The time that is meant by a number; some stand for the time of the clock and of its start. -/
def momentOf (m : Machine) (seconds : Int) : Moment :=
  let start : Int := 1700000000
  .ofSeconds (if seconds = -1 then start + ((m.clock / 1000000 : Nat) : Int)
    else if seconds = -2 then start
    else seconds)

/-- The number of octets that a time takes at most when it is written. -/
def timeLimit : Nat := 127

/-- A time in a format, if it does not take too many octets. -/
def timeText (m : Machine) (format : Octets) (seconds : Int) : Octets :=
  let text := (momentOf m seconds).format false (if format.isEmpty then "%X".toList else format)
  if text.length ≤ timeLimit then text else []

/-- How the formats of a script are read. -/
def formatManner (m : Machine) : Format.Manner where
  binary := Numeral.extended
  escape := escapeAt .format
  unescape cs := unescaped .argument (cs.length + 1) cs
  quote := some Quotes.escaped
  time := some (timeText m)
  sizes := true

/-- The length of the complete lines at the front of a text. -/
def wholeLines (cs : Octets) : Nat := cs.length - (cs.reverse.takeWhile (· ≠ '\n')).length

/-- Write an output with what is to be told in between, and tell how much of it was written. -/
def writeTelling (out : Octets) : (sent : Nat) → List (Format.Fault × Nat) → Run Nat
  | sent, [] => return sent
  | sent, (fault, place) :: rest => do
    let next := max sent (wholeLines (out.take place))
    Run.write ((out.take next).drop sent)
    Run.warn (faultText fault)
    writeTelling out next rest

/-- Write arguments as a format says, or put them into a variable. -/
def printf (args : List Octets) : Run Unit :=
  withOptions "printf" "v:" args fun choices rest => do
    let m ← get
    let target := valueOf? choices 'v'
    let isGood := target.all fun cs => isName (Slot.ofText cs).name.toList
    match rest with
    | [] => usage "printf"
    | format :: rest =>
      if !isGood then refuse (inTicks (target.getD []) ++ ": not a valid identifier".toList) 2
      else
        let p := Format.printed (formatManner m) format rest
        let isWrong (w : Format.Fault × Nat) : Bool := match w.1 with
          | .outOfRange _ => false
          | _ => true
        let faults := p.warnings ++ (p.problem.map fun fault => (fault, p.out.length)).toList
        let failed := faults.any isWrong
        match target with
        | some name =>
          for w in faults do Run.warn (faultText w.1)
          if ← given name p.out then Run.status (if failed then 1 else 0)
        | none =>
          let sent ← writeTelling p.out 0 faults
          Run.write (p.out.drop sent)
          Run.status (if failed then 1 else 0)

end BulkSuppress.Shell.Extended
