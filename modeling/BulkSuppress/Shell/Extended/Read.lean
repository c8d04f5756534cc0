import BulkSuppress.Shell.Builtin.Variable
import BulkSuppress.Shell.Extended.Output

/-
  Reading in the extended dialect: a line, or so many characters, into variables or an array, and
  many lines into an array at once.
-/

namespace BulkSuppress.Shell.Extended

/-! ## What is read -/

/-- How a text is read. -/
structure Reading where
  /-- Backslashes mean nothing. -/
  isRaw : Bool := false
  delimiter : Char := '\n'
  /-- Delimiters mean nothing. -/
  isExact : Bool := false

/--
The characters at the front that are read, with marks for those that stood behind a backslash, how
many are used up, and whether that was not the end of all.
-/
def Reading.take (r : Reading) : (limit : Option Nat) → Octets → List Marked × Nat × Bool
  | some 0, _ => ([], 0, true)
  | _, [] => ([], 0, false)
  | limit, c :: rest =>
    if !r.isExact && c = r.delimiter then ([], 1, true)
    else if !r.isRaw && c = '\\' then
      match rest with
      | [] => ([], 1, false)
      | d :: rest =>
        let add := if d = '\n' then [] else [(d, true)]
        let (cs, count, ended) := r.take (limit.map (· - add.length)) rest
        (add ++ cs, count + 2, ended)
    else
      let add := if c = '\x00' then [] else [(c, false)]
      let (cs, count, ended) := r.take (limit.map (· - add.length)) rest
      (add ++ cs, count + 1, ended)

/-- All fields of a line. -/
def allFields (separators : Octets) : Nat → List Marked → List Octets
  | 0, _ | _, [] => []
  | n + 1, line =>
    let (field, rest) := Builtin.firstField separators line
    field.map (·.1) :: allFields separators n rest

/-! ## Arguments -/

/-- A number that is not negative. -/
def count? (cs : Octets) : Option Nat := (number? cs).bind fun n => if n < 0 then none else some n.toNat

/-- The descriptor that options ask for, unless it is wrong. -/
def descriptorOf (choices : List Choice) : Run (Option Nat) := do
  match valueOf? choices 'u' with
  | none => return some 0
  | some cs =>
    match count? cs with
    | none =>
      refuse (cs ++ ": invalid file descriptor specification".toList)
      return none
    | some n =>
      if ((← get).channel? n).isSome then return some n
      else
        refuse (cs ++ ": invalid file descriptor: Bad file descriptor".toList)
        return none

/-- The number that is the value of an option, unless it is wrong. -/
def countOf (choices : List Choice) (letter : Char) (usual : Nat) (why : String) :
    Run (Option Nat) := do
  match valueOf? choices letter with
  | none => return some usual
  | some cs =>
    match count? cs with
    | some n => return some n
    | none =>
      refuse (cs ++ ": ".toList ++ why.toList)
      return none

/-- Numbers of seconds, with a fraction. -/
def isTime (cs : Octets) : Bool :=
  !cs.isEmpty && (cs.filter (· = '.')).length ≤ 1 && cs.all fun c => isDigit c || c = '.'

/-- What a delimiter is told by. -/
def delimiterOf (choices : List Choice) : Char :=
  match valueOf? choices 'd' with
  | some cs => cs.head?.getD '\x00'
  | none => '\n'

/-! ## Reading a line -/

/-- Give names the fields of a line; the answer tells whether that was possible. -/
def giveFields : List (Octets × Octets) → Run Bool
  | [] => return true
  | (name, value) :: rest => do
    if ← given name value then giveFields rest else return false

/-- Read from a descriptor into variables. -/
def readFrom (choices : List Choice) (names : List Octets) (descriptor : Nat)
    (limit : Option Nat) : Run Unit := do
  match (← get).channel? descriptor with
  | none =>
    refuse ("read error: ".toList ++ (toString descriptor).toList ++ ": Bad file descriptor".toList)
  | some (n, _) =>
    let r : Reading :=
      { isRaw := has choices 'r', delimiter := delimiterOf choices, isExact := has choices 'N' }
    let (line, count, ended) := r.take limit ((← get).unread n)
    modify fun m => if ended then m.afterReading n count else m.afterEnd n
    let m ← get
    let separators := m.separators
    let trimmed := line.dropWhile (Builtin.isBlankSeparator separators)
    let isDone ← match valueOf? choices 'a', names with
      | some name, _ => givenItems name (allFields separators (line.length + 1) trimmed)
      | none, [] => given "REPLY".toList (line.map (·.1))
      | none, names =>
        let fields := if r.isExact then [line.map (·.1)]
          else Builtin.fieldsFor separators names.length trimmed
        giveFields (names.zip (fields ++ List.replicate (names.length - fields.length) []))
    if isDone then Run.status (if ended then 0 else 1)

/-- Read a line into variables. -/
def read (args : List Octets) : Run Unit :=
  withOptions "read" "ersa:d:i:n:N:p:t:u:" args fun choices names => do
    let time := valueOf? choices 't'
    let measure := if has choices 'N' then 'N' else 'n'
    let target := (valueOf? choices 'a').or names.head?
    match time.filter fun cs => !isTime cs with
    | some cs => refuse (cs ++ ": invalid timeout specification".toList)
    | none =>
      match ← countOf choices measure 0 "invalid number" with
      | none => return
      | some limit =>
        match ← descriptorOf choices with
        | none => return
        | some descriptor =>
          let wrong := target.filter fun cs => !isName (Slot.ofText cs).name.toList ||
            (has choices 'a' && !isName cs)
          match wrong with
          | some cs => refuse (inTicks cs ++ ": not a valid identifier".toList)
          | none =>
            let isProbe := time.any fun cs => cs.all fun c => c = '0' || c = '.'
            if isProbe then
              Run.status (if ((← get).channel? descriptor).isSome then 0 else 1)
            else
              readFrom choices names descriptor
                (if (valueOf? choices measure).isSome then some limit else none)

/-! ## Reading many lines -/

/-- The pieces of a text that end with a delimiter, with their delimiters. -/
def delimitedPieces (delimiter : Char) (cs : Octets) : List Octets :=
  let pieces := Text.pieces delimiter cs
  let whole := pieces.dropLast.map (· ++ [delimiter])
  match pieces.getLast? with
  | some [] | none => whole
  | some last => whole ++ [last]

/-- How lines are put into an array. -/
structure Mapping where
  name : String
  keepsEnds : Bool
  delimiter : Char
  origin : Nat
  quantum : Nat
  callback : Option Octets

/-- Put lines into an array, and run a text for some of them. -/
def mapLines (call : Octets → Run Unit) (r : Mapping) : Nat → List Octets → Run Unit
  | _, [] => return
  | n, line :: rest => do
    let value := if !r.keepsEnds && line.getLast? = some r.delimiter then line.dropLast else line
    let value := value.filter (· ≠ '\x00')
    let place := (toString (r.origin + n)).toList
    match r.callback with
    | some text =>
      if (n + 1) % r.quantum = 0 then
        call (text ++ [' '] ++ place ++ [' '] ++ Quotes.single value)
    | none => pure ()
    Run.store ⟨r.name, some place⟩ value
    mapLines call r (n + 1) rest

/-- Read lines into an array. -/
def mapfile (call : Octets → Run Unit) (name : String) (args : List Octets) : Run Unit :=
  withOptions name "d:n:O:s:tu:C:c:" args fun choices rest => do
    let some descriptor ← descriptorOf choices | return
    let some most ← countOf choices 'n' 0 "invalid line count" | return
    let some skipped ← countOf choices 's' 0 "invalid line count" | return
    let some origin ← countOf choices 'O' 0 "invalid array origin" | return
    let some quantum ← countOf choices 'c' 5000 "invalid callback quantum" | return
    let target := rest.headD "MAPFILE".toList
    let array := String.ofList target
    let m ← get
    let v := (m.binding? array).getD {}
    if !isName target then refuse (inTicks target ++ ": not a valid identifier".toList)
    else if v.readOnly then refuse (target ++ ": readonly variable".toList)
    else if v.elements.any fun e => !e.isListed then
      refuse (target ++ ": not an indexed array".toList)
    else
      match m.channel? descriptor with
      | none => Run.status 1
      | some (n, _) =>
        let delimiter := delimiterOf choices
        let all := delimitedPieces delimiter (m.unread n)
        let used := if most = 0 then all else all.take (skipped + most)
        modify fun m => if most = 0 then m.afterEnd n
          else m.afterReading n (total (used.map List.length))
        let old := if (valueOf? choices 'O').isSome then elementsOf v else .listed []
        modify (·.withVariable array
          (some { v with value := none, elements := some old, isFilled := true }))
        mapLines call ⟨array, !has choices 't', delimiter, origin, max 1 quantum,
          valueOf? choices 'C'⟩ 0 (used.drop skipped)
        Run.status 0

end BulkSuppress.Shell.Extended
