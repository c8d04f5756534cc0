import BulkSuppress.Shell.Calendar.Reader
import BulkSuppress.Shell.Utility.Names

/-
  Setting the times of files. The times come from a text, from digits, from another file or from the
  clock; a file that is not there is made.
-/

namespace BulkSuppress.Shell.Utility.Touch

/-- The time that digits spell: month, day, hour and minute, with a year in front and seconds behind. -/
def timeOfDigits? (now : Int) (cs : Octets) : Option Int := do
  let digits := cs.takeWhile isDigit
  let second ← match cs.drop digits.length with
    | [] => some 0
    | '.' :: ds => if ds.length = 2 then decimal? ds else none
    | _ => none
  let n := digits.length
  guard (n = 8 || n = 10 || n = 12)
  let pair (place : Nat) : Int := numberIn 10 ((digits.drop (n - place)).take 2)
  let year : Int ←
    if n = 8 then some (Moment.ofSeconds (now.fdiv 1000000000)).date.1
    else if n = 10 then some (pair 10 + if pair 10 < 69 then 2000 else 1900)
    else some (numberIn 10 (digits.take 4) : Nat)
  let (month, day, hour, minute) := (pair 8, pair 6, pair 4, pair 2)
  guard (1 ≤ month && month ≤ 12 && 1 ≤ day && day ≤ Calendar.Written.daysIn year month)
  guard (hour < 24 && minute < 60 && second < 60)
  let seconds := Moment.dayOf year month day * 86400 + hour * 3600 + minute * 60 + (second : Nat)
  return seconds * 1000000000

/-- Which times are set, and to what. -/
structure Setting where
  access : Bool := true
  change : Bool := true
  /-- The times; those of the clock if they are not said. -/
  stamp : Option Stamp := none
  makes : Bool := true
  follows : Bool := true

/-- Set the times of what a path leads to. -/
def touchOne (q : Setting) (file : Octets) : Run Bool := do
  let m ← get
  let path := pathOf file
  let refuse (what : String) (e : SystemError) : Run Bool := do
    complain "touch" (what.toList ++ shellQuoted file ++ ": ".toList ++ (reasonOf e).toList)
    return false
  let opened : Except SystemError Machine :=
    if q.makes && q.follows then (m.openFile path).map (·.2) else .ok m
  match opened with
  | .error e =>
    if e ≠ .isDirectory then refuse "cannot touch " e
    else
      match m.disk.resolve path with
      | .error e => refuse "setting times of " e
      | .ok loc => setAt loc
  | .ok m =>
    set m
    match if q.follows then m.disk.resolve path else m.disk.locateSelf path with
    | .ok loc => setAt loc
    | .error e =>
      if !q.makes && e = .notFound then return true else refuse "setting times of " e
where
  /-- Set the times of what is at a location. -/
  setAt (loc : Location) : Run Bool := do
    let m ← get
    let before := m.stampAt loc
    let given := q.stamp.getD ⟨m.now, m.now⟩
    set (m.withStamp loc
      { access := if q.access then given.access else before.access
        change := if q.change then given.change else before.change })
    return true

/-- The names of the times. -/
def timeNames : List (List String × Bool) :=
  [(["atime", "access", "use"], true), (["mtime", "modify"], false)]

/-- The options. -/
def options : Options :=
  { name := "touch", letters := "acd:fhmr:t:τ:"
    longs := [("time", 'τ'), ("no-create", 'c'), ("date", 'd'), ("reference", 'r'),
      ("no-dereference", 'h')] }

/-- The times that the choices ask for, or why there are none. -/
def stampOf (choices : List Choice) : Run (Except Unit (Option Stamp)) := do
  let m ← get
  let refuse (cs : Octets) : Run (Except Unit (Option Stamp)) := do
    complain "touch" cs
    return .error ()
  let invalid (cs : Octets) : Run (Except Unit (Option Stamp)) :=
    refuse ("invalid date format ".toList ++ quoted cs)
  match valueOf? choices "t", valueOf? choices "d", valueOf? choices "r" with
  | some digits, date, reference =>
    match timeOfDigits? m.now digits with
    | none => invalid digits
    | some t =>
      if date.isSome || reference.isSome then
        complain "touch" "cannot specify times from more than one source".toList
        hint "touch"
        return .error ()
      else return .ok (some ⟨t, t⟩)
  | none, date, some reference =>
    let found := if chosen choices "h" then m.disk.locateSelf (pathOf reference)
      else m.disk.resolve (pathOf reference)
    match found with
    | .error e =>
      refuse ("failed to get attributes of ".toList ++ shellQuoted reference ++ ": ".toList ++
        (reasonOf e).toList)
    | .ok loc =>
      let s := m.stampAt loc
      match date with
      | none => return .ok (some s)
      | some cs =>
        match Calendar.read? s.access cs, Calendar.read? s.change cs with
        | some access, some change => return .ok (some { access, change })
        | _, _ => invalid cs
  | none, some cs, none =>
    match Calendar.read? m.now cs with
    | some t => return .ok (some ⟨t, t⟩)
    | none => invalid cs
  | none, none, none => return .ok none

/-- Set the times of files. -/
def run : Action := fun args =>
  withOptions options args fun choices operands => do
    let mut access := chosen choices "a"
    let mut change := chosen choices "m"
    for c in choices do
      if c.letter = 'τ' then
        match ← namedValue? "touch" "--time" timeNames c.value with
        | none => return 1
        | some true => access := true
        | some false => change := true
    match ← stampOf choices with
    | .error _ => return 1
    | .ok stamp =>
      if operands.isEmpty then
        complain "touch" "missing file operand".toList
        hint "touch"
        return 1
      let isBoth := access = change
      let q : Setting :=
        { access := access || isBoth, change := change || isBoth, stamp
          makes := !chosen choices "c", follows := !chosen choices "h" }
      let mut status := 0
      for cs in operands do
        if cs = ['-'] then pure ()
        else if !(← touchOne q cs) then status := 1
      return status

end BulkSuppress.Shell.Utility.Touch
