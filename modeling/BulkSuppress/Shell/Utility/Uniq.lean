import BulkSuppress.Shell.Utility.Output

/-
  Lines that follow each other and are the same. What is compared of a line is a part of it: some
  fields and octets in front do not count, and only so many octets behind them do.
-/

namespace BulkSuppress.Shell.Utility.Uniq

/-- Where empty lines part groups of lines. -/
inductive Parting where
  | none
  | infront
  | between
  | behind
  | around
deriving DecidableEq, Repr

/-- What is to be done with lines that are the same. -/
structure Request where
  fields : Nat := 0
  octets : Nat := 0
  compared : Option Nat := .none
  foldsCase : Bool := false
  counts : Bool := false
  /-- Lines that come once are written. -/
  writesSingle : Bool := true
  /-- The first of lines that are the same is written. -/
  writesRepeated : Bool := true
  /-- All of the lines that are the same are written, with groups parted. -/
  repeated : Option Parting := .none
  /-- All lines are written, with groups parted. -/
  grouped : Option Parting := .none
  lineEnd : Char := '\n'

/-- An octet between fields. -/
def isBlank (c : Char) : Bool := c = ' ' || c = '\t' || c = '\n'

/-- What is behind some fields of a line. -/
def behindFields : Nat → Octets → Octets
  | 0, cs => cs
  | n + 1, cs => behindFields n ((cs.dropWhile isBlank).dropWhile fun c => !isBlank c)

/-- The part of a line that is compared. -/
def Request.part (q : Request) (line : Octets) : Octets :=
  let rest := (behindFields (min q.fields line.length) line).drop q.octets
  let rest := q.compared.elim rest rest.take
  if q.foldsCase then rest.map Char.toLower else rest

/-- Groups of lines that follow each other and are the same. -/
def Request.groups (q : Request) (lines : List Octets) : List (List Octets) :=
  lines.foldr (fun l acc => match acc with
    | (x :: xs) :: rest =>
      if q.part l = q.part x then (l :: x :: xs) :: rest else [l] :: (x :: xs) :: rest
    | _ => [l] :: acc) []

/-- Groups with empty lines where they are to be parted. -/
def parted (p : Parting) (groups : List (List Octets)) : List Octets :=
  let before := p = .infront || p = .around
  let text := groups.mapIdx fun i g =>
    (if (if i = 0 then before else p ≠ .none) then [[]] else []) ++ g
  text.flatten ++ if (p = .behind || p = .around) && !groups.isEmpty then [[]] else []

/-- The lines that are written for lines. -/
def Request.written (q : Request) (lines : List Octets) : List Octets :=
  let groups := q.groups lines
  match q.grouped, q.repeated with
  | some p, _ => parted p groups
  | .none, some p =>
    let repeated := groups.filter fun g => 1 < g.length
    parted p (if q.writesRepeated then repeated else repeated.map List.dropLast)
  | .none, .none => groups.filterMap fun g =>
    if if g.length = 1 then q.writesSingle else q.writesRepeated then
      g.head?.map fun l => (if q.counts then padLeft 7 (decimal g.length) ++ [' '] else []) ++ l
    else .none

/-! ## Arguments -/

/-- The names of ways to part groups of repeated lines. -/
def repeatedNames : List (List String × Parting) :=
  [(["none"], .none), (["prepend"], .infront), (["separate"], .between)]

/-- The names of ways to part groups of all lines. -/
def groupNames : List (List String × Parting) :=
  [(["prepend"], .infront), (["append"], .behind), (["separate"], .between), (["both"], .around)]

/-- Why arguments make no sense. -/
inductive Fault where
  /-- A text, with a hint. -/
  | usage (why : Octets)
  /-- A text. -/
  | badNumber (why : Octets)

/-- Tell why arguments make no sense. -/
def Fault.tell : Fault → Run Unit
  | .usage why => do
    complain "uniq" why
    hint "uniq"
  | .badNumber why => complain "uniq" why

/-- The number of things that a text spells. -/
def number (what : String) (cs : Octets) : Except Fault Nat :=
  match decimal? cs with
  | some n => .ok n
  | .none => .error (.badNumber (cs ++ ": invalid number of ".toList ++ what.toList))

/-- The way to part groups that an option asks for, unless a name makes no sense. -/
def parting (choices : List Choice) (letter : Char) (option : String) (usual : Parting)
    (names : List (List String × Parting)) : Run (Option (Option Parting)) := do
  match (choices.filter fun c => c.letter = letter).getLast? with
  | .none => return some .none
  | some c =>
    if c.value.isEmpty then return some (some usual)
    else return (← namedValue? "uniq" option names c.value).map some

/-- What an option adds to a request; digits add up to the number of fields. -/
def withChoice (s : Request × Option Nat) (c : Choice) : Except Fault (Request × Option Nat) := do
  let (q, bare) := s
  match c.letter with
  | 'c' => return ({ q with counts := true }, bare)
  | 'd' => return ({ q with writesSingle := false }, bare)
  | 'u' => return ({ q with writesRepeated := false }, bare)
  | 'i' => return ({ q with foldsCase := true }, bare)
  | 'z' => return ({ q with lineEnd := '\x00' }, bare)
  | 'f' => return ({ q with fields := ← number "fields to skip" c.value }, .none)
  | 's' => return ({ q with octets := ← number "bytes to skip" c.value }, bare)
  | 'w' => return ({ q with compared := some (← number "bytes to compare" c.value) }, bare)
  | 'D' => return ({ q with repeated := some .none }, bare)
  | d =>
    if isDigit d then
      let n := bare.getD 0 * 10 + (d.toNat - '0'.toNat)
      return ({ q with fields := n }, some n)
    else return (q, bare)

/-- The options; those without a letter of ASCII have long names only. -/
def spec : Options where
  name := "uniq"
  letters := "0123456789Dcdf:is:uw:zδ::γ::"
  longs := [("count", 'c'), ("repeated", 'd'), ("all-repeated", 'δ'), ("group", 'γ'),
    ("ignore-case", 'i'), ("unique", 'u'), ("skip-fields", 'f'), ("skip-chars", 's'),
    ("check-chars", 'w'), ("zero-terminated", 'z')]

/-- The request that options and operands make, and the files. -/
def request (q : Request) (choices : List Choice) (operands : List Octets) :
    Except Fault (Request × List Octets) := do
  let (q, _) ← choices.foldlM withChoice (q, .none)
  let skips (cs : Octets) : Option Nat := match cs with
    | '+' :: digits => decimal? digits
    | _ => .none
  let (q, files) := match operands.find? fun cs => (skips cs).isSome with
    | some cs => ({ q with octets := (skips cs).getD 0 }, operands.filter (· ≠ cs))
    | .none => (q, operands)
  match files[2]? with
  | some file => throw (.usage ("extra operand ".toList ++ quoted file))
  | .none => pure ()
  if q.grouped.isSome && (q.counts || q.repeated.isSome || chosen choices "du") then
    throw (.usage "--group is mutually exclusive with -c/-d/-D/-u".toList)
  if q.counts && q.repeated.isSome then
    throw (.usage "printing all duplicated lines and repeat counts is meaningless".toList)
  return (q, files)

/-- Write lines that are the same as those before them only once, or as options say. -/
def run : Action := fun args =>
  withOptions spec args fun choices operands => do
    let some repeated ← parting choices 'δ' "--all-repeated" .none repeatedNames | return 1
    let some grouped ← parting choices 'γ' "--group" .between groupNames | return 1
    match request { repeated, grouped } choices operands with
    | .error fault =>
      fault.tell
      return 1
    | .ok (q, files) =>
      let source := files.head?.getD ['-']
      match ← contentOf source with
      | .error e =>
        if e = .isDirectory then
          complain "uniq" ("error reading ".toList ++ shellQuoted source ++ ": ".toList ++
            (reasonOf e).toList)
        else complainAbout "uniq" (shownName source) e
        return 1
      | .ok cs =>
        let pieces := Text.pieces q.lineEnd cs
        let lines := if pieces.getLast? = some [] then pieces.dropLast else pieces
        let text := (q.written lines).flatMap fun l => l ++ [q.lineEnd]
        match files[1]? with
        | .none | some ['-'] =>
          Run.write text
          return 0
        | some target =>
          match (← get).writeFile ⟨Octets.toText target⟩ (Octets.toBytes text) with
          | .ok m =>
            set m
            return 0
          | .error e =>
            complainAbout "uniq" (shownName target) e
            return 1

end BulkSuppress.Shell.Utility.Uniq
