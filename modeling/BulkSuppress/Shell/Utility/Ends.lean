import BulkSuppress.Shell.Utility.Output
import BulkSuppress.Shell.Utility.Arguments

/-
  The fronts and the backs of files, by lines or bytes. What the front leaves of a file that is
  the input can still be read from it.
-/

namespace BulkSuppress.Shell.Utility

/-! ## Requests -/

/-- What is wanted of each file. -/
structure EndRequest where
  count : Nat := 10
  byOctets : Bool := false
  /-- The count is about the other end: what is not wanted. -/
  fromOther : Bool := false
  quiet : Bool := false
  verbose : Bool := false
  lineEnd : Char := '\n'

/-- Why a request makes no sense. -/
inductive EndFault where
  | size (byOctets : Bool) (given : Octets) (fault : SizeFault)
  | trailing (letter : Char)
  | context (letter : Char)

/-- Tell why a request makes no sense. -/
def EndFault.tell (name : String) : EndFault → Run Unit
  | .size byOctets given fault =>
    complainAboutSize name
      (if byOctets then "invalid number of bytes" else "invalid number of lines") given fault
  | .trailing letter => do
    complain name ("invalid trailing option -- ".toList ++ [letter])
    hint name
  | .context letter => complain name ("option used in invalid context -- ".toList ++ [letter])

/-- The request with a count, where a sign in front of it means the other end. -/
def EndRequest.withCount (q : EndRequest) (otherSign : Char) (isHead byOctets : Bool)
    (given : Octets) : Except EndFault EndRequest :=
  let fromOther := given.head? = some otherSign
  let digits := if fromOther && isHead || given.head? = some '-' then given.drop 1 else given
  match sized countUnits digits with
  | .ok count => .ok { q with count, byOctets, fromOther }
  | .error fault => .error (.size byOctets digits fault)

/-- The request with what options ask for. -/
def EndRequest.withChoices (q : EndRequest) (otherSign : Char) (isHead : Bool)
    (choices : List Choice) : Except EndFault EndRequest :=
  choices.foldlM (fun q c =>
    match c.letter with
    | 'n' => q.withCount otherSign isHead false c.value
    | 'c' => q.withCount otherSign isHead true c.value
    | 'q' => .ok { q with quiet := true, verbose := false }
    | 'v' => .ok { q with quiet := false, verbose := true }
    | 'z' => .ok { q with lineEnd := '\x00' }
    | c => if isDigit c then .error (.context c) else .ok q) q

/-- The units of octets that a letter behind a bare count asks for. -/
def bareUnits : List (Char × Octets) := [('c', []), ('b', ['b']), ('k', ['k']), ('m', ['m'])]

/-- What a bare count with letters behind it asks for, and whether it counts octets in units. -/
def bareLetters (q : EndRequest) (unit : Octets) :
    Octets → Except EndFault (EndRequest × Octets)
  | [] => .ok (q, unit)
  | c :: cs =>
    match bareUnits.lookup c with
    | some unit => bareLetters { q with byOctets := true } unit cs
    | none =>
      match c with
      | 'l' => bareLetters { q with byOctets := false } unit cs
      | 'q' => bareLetters { q with quiet := true, verbose := false } unit cs
      | 'v' => bareLetters { q with quiet := false, verbose := true } unit cs
      | 'z' => bareLetters { q with lineEnd := '\x00' } unit cs
      | _ => .error (.trailing c)

/-- The request for a front that a bare count among the arguments is, and the other arguments. -/
def bareFront (args : List Octets) : Except EndFault (EndRequest × List Octets) :=
  match args with
  | ('-' :: d :: ds) :: rest =>
    if !isDigit d then .ok ({}, args)
    else do
      let digits := (d :: ds).takeWhile isDigit
      let (q, unit) ← bareLetters {} [] ((d :: ds).drop digits.length)
      match sized countUnits (digits ++ unit) with
      | .ok count => return ({ q with count }, rest)
      | .error fault => .error (.size q.byOctets (digits ++ unit) fault)
  | _ => .ok ({}, args)

/-- The request for a back that a bare count in front of at most one file is. -/
def bareBack? (args : List Octets) : Option (EndRequest × List Octets) := do
  let (first, rest) ← match args with
    | [first] => some (first, [])
    | [first, second] =>
      if second.head? = some '-' && 1 < second.length && second ≠ ['-', '-'] then none
      else some (first, [second])
    | [first, ['-', '-'], third] => some (first, [['-', '-'], third])
    | _ => none
  let (fromOther, body) ← match first with
    | '+' :: body => some (true, body)
    | '-' :: c :: body => if c = 'c' && body.isEmpty then none else some (false, c :: body)
    | _ => none
  let digits := body.takeWhile isDigit
  let (byOctets, unit) ← match body.drop digits.length with
    | [] | ['l'] => some (false, 1)
    | ['c'] => some (true, 1)
    | ['b'] => some (true, 512)
    | _ => none
  let count := (if digits.isEmpty then 10 else numberIn 10 digits) * unit
  return ({ count, byOctets, fromOther }, rest)

/-! ## Parts -/

/-- The lines of octets, each with its end. -/
def endedLines (lineEnd : Char) (cs : Octets) : List Octets :=
  let pieces := Text.pieces lineEnd cs
  let last := pieces.getLast?.getD []
  pieces.dropLast.map (· ++ [lineEnd]) ++ if last.isEmpty then [] else [last]

/-- The front of some items. -/
def EndRequest.front {α : Type} (q : EndRequest) (xs : List α) : List α :=
  if q.fromOther then xs.take (xs.length - q.count) else xs.take q.count

/-- The back of some items. -/
def EndRequest.back {α : Type} (q : EndRequest) (xs : List α) : List α :=
  if q.fromOther then xs.drop (q.count - 1) else xs.drop (xs.length - q.count)

/-- The octets that are wanted, where `part` cuts lists of any items. -/
def EndRequest.wanted (q : EndRequest) (part : {α : Type} → List α → List α) (cs : Octets) :
    Octets :=
  if q.byOctets then part cs else (part (endedLines q.lineEnd cs)).flatten

/-! ## The input -/

/-- How much is read at once. -/
def blockSize : Nat := 8192

/-- How much of texts is read to get so many octets, block by block or exactly. -/
def readFor (exact : Bool) (needed : Nat) : List (Nat × Octets) → Nat
  | [] => 0
  | (_, cs) :: rest =>
    if needed = 0 then 0
    else if needed ≤ cs.length then
      if exact then needed
      else min cs.length ((needed + blockSize - 1) / blockSize * blockSize)
    else cs.length + readFor exact (needed - cs.length) rest

/-- Write the front of the input, and leave the rest as far as it has not been read. -/
def copyFront (q : EndRequest) : Run Unit := do
  match (← get).channel? 0 with
  | none => return
  | some (n, channel) =>
    let cs := (← get).unread n
    let wanted := q.wanted q.front cs
    match channel with
    | .file _ _ _ => modify (·.afterReading n wanted.length)
    | .supply rest =>
      let all := rest.flatMap (·.2)
      if q.fromOther || wanted.length = all.length then modify (·.afterEnd n)
      else modify (·.afterReading n (readFor q.byOctets wanted.length rest))
    | _ => pure ()
    Run.write wanted

/-! ## Utilities -/

/-- Why the input cannot be read, if it cannot. -/
def inputProblem? : Run (Option SystemError) := do
  match (← get).channel? 0 with
  | none => return some (.code 9)
  | some (_, .file loc _ _) =>
    return if (← get).disk.isDirectoryAt loc then some .isDirectory else none
  | some _ => return none

/-- Write a line that names a file, behind an empty line if it is not the first one. -/
def announce (isFirst : Bool) (shown : Octets) : Run Unit :=
  Run.write ((if isFirst then [] else ['\n']) ++ "==> ".toList ++ shown ++ " <==\n".toList)

/-- Write a part of each file; `copy` writes that of the input. -/
def endsOf (name : String) (q : EndRequest) (files : List Octets)
    (part : {α : Type} → List α → List α) (copy : Run Unit) : Run Nat := do
  let headed := q.verbose || (1 < files.length && !q.quiet)
  let mut status := 0
  let mut isFirst := true
  for file in if files.isEmpty then [['-']] else files do
    let isInput := file = ['-']
    let shown := if isInput then "standard input".toList else file
    let content : Except SystemError Octets ← if isInput then do
        pure ((← inputProblem?).elim (.ok []) .error)
      else contentOf file
    match content with
    | .error e =>
      let reading := e = .isDirectory
      if reading && headed then
        announce isFirst shown
        isFirst := false
      complain name ((if reading then "error reading " else "cannot open ").toList ++
        shellQuoted shown ++ (if reading then ": " else " for reading: ").toList ++
        (reasonOf e).toList)
      status := 1
    | .ok cs =>
      if headed then announce isFirst shown
      isFirst := false
      if isInput then copy else Run.write (q.wanted part cs)
  return status

/-- The options for the front; those without a letter of ASCII have long names only. -/
def headOptions : Options where
  name := "head"
  letters := "c:n:qvz0123456789π"
  longs := [("bytes", 'c'), ("lines", 'n'), ("-presume-input-pipe", 'π'), ("quiet", 'q'),
    ("silent", 'q'), ("verbose", 'v'), ("zero-terminated", 'z')]

/-- The options for the back; those without a letter of ASCII have long names only. -/
def tailOptions : Options where
  name := "tail"
  letters := "c:n:fFqs:vz0123456789φ::μ:ιδ:πρ"
  longs := [("bytes", 'c'), ("follow", 'φ'), ("lines", 'n'), ("max-unchanged-stats", 'μ'),
    ("-disable-inotify", 'ι'), ("pid", 'δ'), ("-presume-input-pipe", 'π'), ("quiet", 'q'),
    ("retry", 'ρ'), ("silent", 'q'), ("sleep-interval", 's'), ("verbose", 'v'),
    ("zero-terminated", 'z')]

/-- Write the front of each file. -/
def head : Action := fun args => do
  match bareFront args with
  | .error fault =>
    fault.tell "head"
    return 1
  | .ok (q, rest) =>
    withOptions headOptions rest fun choices files => do
      match choices.find? fun c => isDigit c.letter with
      | some c =>
        (EndFault.trailing c.letter).tell "head"
        return 1
      | none =>
        match q.withChoices '-' true choices with
        | .error fault =>
          fault.tell "head"
          return 1
        | .ok q => endsOf "head" q files q.front (copyFront q)

/-- Write the back of each file. -/
def tail : Action := fun args => do
  let (q, rest) := (bareBack? args).getD ({}, args)
  withOptions tailOptions rest fun choices files => do
    match q.withChoices '+' false choices with
    | .error fault =>
      fault.tell "tail"
      return 1
    | .ok q =>
      let status ← endsOf "tail" q files q.back do Run.write (q.wanted q.back (← Run.readAll))
      if chosen choices "fF" && status ≠ 0 then complain "tail" "no files remaining".toList
      return status

end BulkSuppress.Shell.Utility
