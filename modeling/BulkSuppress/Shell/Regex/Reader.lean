import BulkSuppress.Shell.Regex

/-
  How regular expressions are written. The dialects of the utilities differ in which signs need a
  backslash to be operators, and in what becomes of operators where there is nothing to repeat.
-/

namespace BulkSuppress.Shell
namespace Regex

/-! ## Dialects -/

/-- How a regular expression is written. -/
structure Dialect where
  /-- Operators stand without a backslash. -/
  extended : Bool := false
  /-- The signs for some or none, and for at least one, stand without a backslash anyway. -/
  plainSigns : Bool := false
  /-- A repetition of nothing is an error. -/
  strictStart : Bool := false
  /-- A repetition right behind another one is an error. -/
  strictRepeats : Bool := false
  /-- Bounds that make no sense stand for themselves. -/
  looseBounds : Bool := false
  /-- A closing sign without an opening one is an error. -/
  strictClose : Bool := false
  /-- A range can be empty. -/
  emptyRanges : Bool := false
  /-- A class without its outer brackets is an error. -/
  confusing : Bool := false
  /-- A repetition of nothing is worth a warning. -/
  warns : Bool := false

/-- Reading, with what is left, the number of groups so far, and warnings. -/
structure Source where
  rest : Octets
  groups : Nat := 0
  opened : Nat := 0
  warnings : List String := []

/-- Reading that ends where something does not fit. -/
abbrev Reader := StateT Source (Except String)

/-! ## Sets -/

/-- The members of the class of word octets. -/
def wordMembers : List Member := [.named "alnum".toList, .range '_' '_']

/-- The names of the classes. -/
def classNames : List String :=
  ["alpha", "digit", "alnum", "upper", "lower", "space", "blank", "punct", "print", "graph",
    "cntrl", "xdigit"]

/-- A set that has no end. -/
def unmatchedSet : String := "Unmatched [, [^, [:, [., or [="

/-- What a range can go from or to. -/
inductive Point where
  | octet (c : Char)
  | named (name : Octets)

/-- The name up to a mark and a closing bracket, and what is behind these. -/
def markedName (mark : Char) : Octets → Option (Octets × Octets)
  | c :: d :: rest =>
    if c = mark && d = ']' then some ([], rest)
    else (markedName mark (d :: rest)).map fun r => (c :: r.1, r.2)
  | _ => none

theorem markedName_length (mark : Char) (cs : Octets) :
    ∀ name rest, markedName mark cs = some (name, rest) → rest.length < cs.length := by
  induction cs with
  | nil => intro name rest h; simp [markedName] at h
  | cons c cs ih =>
    intro name rest h
    cases cs with
    | nil => simp [markedName] at h
    | cons d ds =>
      simp only [markedName] at h
      split at h
      · simp only [Option.some.injEq, Prod.mk.injEq] at h
        simp only [← h.2, List.length_cons]
        omega
      · cases hm : markedName mark (d :: ds) with
        | none => simp [hm] at h
        | some r =>
          simp only [hm, Option.map_some, Option.some.injEq, Prod.mk.injEq] at h
          have := ih r.1 r.2 hm
          simp only [List.length_cons] at this ⊢
          rw [← h.2]; omega

/-- The point at the front of a set, and what is behind it. -/
def point (cs : Octets) : Except String (Point × { rest : Octets // rest.length < cs.length }) :=
  match cs with
  | [] => .error unmatchedSet
  | '[' :: mark :: rest =>
    if mark = ':' || mark = '.' || mark = '=' then
      match h : markedName mark rest with
      | none => .error unmatchedSet
      | some (name, behind) =>
        have : behind.length < ('[' :: mark :: rest).length := by
          have := markedName_length mark rest name behind h
          simp only [List.length_cons]; omega
        match name with
        | [c] =>
          if mark = ':' then .error "Invalid character class name"
          else .ok (.octet c, ⟨behind, this⟩)
        | name =>
          if mark ≠ ':' then .error "Invalid collation character"
          else if classNames.contains (String.ofList name) then .ok (.named name, ⟨behind, this⟩)
          else .error "Invalid character class name"
    else .ok (.octet '[', ⟨mark :: rest, by simp⟩)
  | c :: rest => .ok (.octet c, ⟨rest, by simp⟩)

/-- The members of a set from its first one on, and what is behind it. -/
def setMembers (emptyRanges isFirst : Bool) (cs : Octets) :
    Except String (List Member × Octets) := do
  match cs with
  | [] => throw unmatchedSet
  | c :: rest =>
    if c = ']' && !isFirst then return ([], rest)
    else if c = '-' && !isFirst && rest.head?.any (· ≠ ']') then throw "Invalid range end"
    else
      let (low, ⟨behind, hbehind⟩) ← point (c :: rest)
      match hdash : behind with
      | '-' :: more =>
        have hmore : more.length < rest.length := by simpa [hdash] using hbehind
        if more.head? = some ']' then
          let r ← setMembers emptyRanges false ('-' :: more)
          match low with
          | .octet c => return (.range c c :: r.1, r.2)
          | .named name => return (.named name :: r.1, r.2)
        else
          let (high, ⟨after, hafter⟩) ← point more
          have hshorter : after.length < rest.length := Nat.lt_trans hafter hmore
          match low, high with
          | .octet first, .octet last =>
            if last < first && !emptyRanges then throw "Invalid range end"
            let r ← setMembers emptyRanges false after
            return (.range first last :: r.1, r.2)
          | _, _ => throw "Invalid range end"
      | _ =>
        have hle : behind.length ≤ rest.length := Nat.le_of_lt_succ hbehind
        let r ← setMembers emptyRanges false behind
        match low with
        | .octet c => return (.range c c :: r.1, r.2)
        | .named name => return (.named name :: r.1, r.2)
termination_by cs.length
decreasing_by all_goals simp only [List.length_cons]; omega

/-- A class without its outer brackets. -/
def isConfusing (inside : Octets) : Bool :=
  inside.head? = some ':' && inside.getLast? = some ':' && inside.any (· ≠ ':') &&
    !(inside.contains '[' || inside.contains '-')

/-- The set at the front, behind its opening bracket, and what is behind it. -/
def set (d : Dialect) (cs : Octets) : Except String (Regex × Octets) := do
  let negated := cs.head? = some '^'
  let body := if negated then cs.drop 1 else cs
  if body.isEmpty then throw "Invalid regular expression"
  let (members, rest) ← setMembers d.emptyRanges true body
  if d.confusing && isConfusing (body.take (body.length - rest.length - 1)) then
    throw "character class syntax is [[:space:]], not [:space:]"
  return (.oneOf negated members, rest)

/-! ## Bounds -/

/-- The largest number of repetitions. -/
def mostRepeats : Nat := 32767

/-- What a text behind an opening brace is. -/
inductive Bounds where
  | found (low : Nat) (high : Option Nat) (length : Nat)
  /-- The brace stands for itself. -/
  | plain
  | bad (why : String)

/-- A text cut at a comma or the closing sign, with what follows that, if there is one. -/
def boundAt (closing : Octets) : Octets → Octets × Option (Bool × Octets)
  | [] => ([], none)
  | c :: cs =>
    if closing.isPrefixOf (c :: cs) then ([], some (true, (c :: cs).drop closing.length))
    else if c = ',' then ([], some (false, cs))
    else
      let r := boundAt closing cs
      (c :: r.1, r.2)

/-- The bounds behind an opening brace. -/
def bounds (d : Dialect) (cs : Octets) : Bounds :=
  let closing : Octets := if d.extended then ['\x7d'] else ['\\', '\x7d']
  let invalid := Bounds.bad "Invalid content of \\\x7b\\\x7d"
  let loose (isOver : Bool) : Bounds :=
    if d.looseBounds then .plain else if isOver then .bad "Unmatched \\\x7b" else invalid
  let finish (low : Nat) (high : Option Nat) (rest : Octets) : Bounds :=
    if high.any (· < low) then invalid
    else if mostRepeats < low || high.any (mostRepeats < ·) then
      .bad "Regular expression too big"
    else .found low high (cs.length - rest.length)
  let (first, behind) := boundAt closing cs
  match behind with
  | none => loose true
  | some (isClosed, rest) =>
    if first.isEmpty && isClosed then invalid
    else if !first.all isDigit then
      if isClosed then loose false
      else loose (boundAt closing rest).2.isNone
    else
      let low := numberIn 10 first
      if isClosed then finish low (some low) rest
      else
        let (second, end') := boundAt closing rest
        match end' with
        | none => loose true
        | some (isClosed, rest) =>
          if !second.all isDigit then loose false
          else if !isClosed then invalid
          else finish low (if second.isEmpty then none else some (numberIn 10 second)) rest

/-! ## Signs -/

/-- A sign that is next, as an operator. -/
inductive Sign where
  | star
  | plus
  | option
  | open_
  | close
  | bar
  | bounds
  | plain (c : Char)
  /-- A letter behind a backslash. -/
  | letter (c : Char)
  | finish
deriving DecidableEq, Repr

/-- The sign at the front, and how many octets it takes. -/
def sign (d : Dialect) (cs : Octets) : Except String (Sign × Nat) :=
  match cs with
  | [] => .ok (.finish, 0)
  | '\\' :: [] => .error "Trailing backslash"
  | '\\' :: c :: _ =>
    let operator : Option Sign := match c with
      | '(' => some .open_
      | ')' => some .close
      | '|' => some .bar
      | '+' => some .plus
      | '?' => some .option
      | '\x7b' => some .bounds
      | _ => none
    match operator with
    | some s => .ok (if d.extended then .plain c else s, 2)
    | none => .ok (if isLetter c || isDigit c || "<>\x60'".toList.contains c then .letter c
        else .plain c, 2)
  | c :: _ =>
    if c = '*' then .ok (.star, 1)
    else if d.plainSigns && (c = '+' || c = '?') then .ok (if c = '+' then .plus else .option, 1)
    else if d.extended then
      match c with
      | '(' => .ok (.open_, 1)
      | ')' => .ok (.close, 1)
      | '|' => .ok (.bar, 1)
      | '+' => .ok (.plus, 1)
      | '?' => .ok (.option, 1)
      | '\x7b' => .ok (.bounds, 1)
      | _ => .ok (.plain c, 1)
    else .ok (.plain c, 1)

/-- What a letter behind a backslash stands for. -/
def ofLetter (c : Char) : Regex :=
  match c with
  | 'w' => .oneOf false wordMembers
  | 'W' => .oneOf true wordMembers
  | 's' => .oneOf false [.named "space".toList]
  | 'S' => .oneOf true [.named "space".toList]
  | 'b' => .edge .word
  | 'B' => .edge .noWord
  | '<' => .edge .wordStart
  | '>' => .edge .wordEnd
  | '\x60' => .edge .textStart
  | '\'' => .edge .textEnd
  | _ => if isDigit c && c ≠ '0' then .same (c.toNat - '0'.toNat) else .char c

/-- Nothing to repeat. -/
def nothingRepeated : String := "Invalid preceding regular expression"

section

variable (d : Dialect)

/-- Go on behind some octets. -/
def skip (n : Nat) : Reader Unit := modify fun s => { s with rest := s.rest.drop n }

/-- The sign that is next. -/
def next : Reader (Sign × Nat) := do
  match sign d (← get).rest with
  | .ok r => return r
  | .error e => throw e

/-- Warn of a sign that repeats nothing. -/
def warn (text : String) : Reader Unit :=
  if d.warns then modify fun s =>
    { s with warnings := s.warnings ++ [text ++ " at start of expression"] }
  else pure ()

mutual

/-- Alternatives. -/
def alternatives (depth : Nat) : Reader Regex :=
  match depth with
  | 0 => throw "Regular expression too big"
  | depth + 1 => do
    let a ← sequence depth true .empty
    let (s, n) ← next d
    if s = .bar then
      skip n
      return .alt a (← alternatives depth)
    else return a

/-- What follows each other, behind `before`; `atStart` tells that nothing stands in front. -/
def sequence (depth : Nat) (atStart : Bool) (before : Regex) : Reader Regex :=
  match depth with
  | 0 => throw "Regular expression too big"
  | depth + 1 => do
    let (s, n) ← next d
    match s with
    | .finish | .bar => return before
    | .close =>
      if 0 < (← get).opened then return before
      else if d.extended && !d.strictClose then
        skip n
        repeated depth before (.char ')')
      else throw "Unmatched ) or \\)"
    | .open_ =>
      skip n
      let number := (← get).groups + 1
      modify fun s => { s with groups := number, opened := s.opened + 1 }
      let a ← alternatives depth
      let (closing, m) ← next d
      if closing ≠ .close then throw "Unmatched ( or \\("
      skip m
      modify fun s => { s with opened := s.opened - 1 }
      repeated depth before (.group number a)
    | .star =>
      skip n
      if !atStart then repeated depth before (.char '*')
      else if d.extended then
        if d.strictStart then throw nothingRepeated
        warn d "*"
        sequence depth true before
      else repeated depth before (.char '*')
    | .plus | .option =>
      skip n
      let c := if s = .plus then '+' else '?'
      if d.extended then
        if d.strictStart then throw nothingRepeated
        warn d (String.singleton c)
        sequence depth true before
      else repeated depth before (.char c)
    | .bounds =>
      if d.strictStart || d.strictRepeats then throw nothingRepeated
      skip n
      if !d.extended then repeated depth before (.char '\x7b')
      else
        match bounds d (← get).rest with
        | .found _ _ m =>
          skip m
          warn d "\x7b...\x7d"
          sequence depth true before
        | .plain => repeated depth before (.char '\x7b')
        | .bad why => throw why
    | .letter c =>
      skip n
      match ofLetter c with
      | .same k =>
        if (← get).groups < k then throw "Invalid back reference"
        repeated depth before (.same k)
      | .edge e => sequence depth true (.seq before (.edge e))
      | a => repeated depth before a
    | .plain c =>
      let cs := (← get).rest
      if n = 2 then
        skip n
        repeated depth before (.char c)
      else
        match c with
        | '.' =>
          skip n
          repeated depth before .any
        | '[' =>
          match set d (cs.drop 1) with
          | .error e => throw e
          | .ok (a, after) =>
            modify fun s => { s with rest := after }
            repeated depth before a
        | '^' =>
          skip n
          if d.extended || atStart then sequence depth true (.seq before (.edge .lineStart))
          else repeated depth before (.char '^')
        | '$' =>
          skip n
          let (after, _) ← next d
          if d.extended || after = .finish || after = .bar || after = .close then
            sequence depth false (.seq before (.edge .lineEnd))
          else repeated depth before (.char '$')
        | c =>
          skip n
          repeated depth before (.char c)

/-- The signs for repetitions behind a part, and what follows. -/
def repeated (depth : Nat) (before a : Regex) : Reader Regex :=
  match depth with
  | 0 => throw "Regular expression too big"
  | depth + 1 => do
    let (s, n) ← next d
    let again (a : Regex) : Reader Regex := do
      let (s, _) ← next d
      if d.strictRepeats && (s = .star || s = .bounds) then throw nothingRepeated
      repeated depth before a
    match s with
    | .star =>
      skip n
      again (.times a 0 none)
    | .plus =>
      skip n
      again (.times a 1 none)
    | .option =>
      skip n
      again (.times a 0 (some 1))
    | .bounds =>
      match bounds d ((← get).rest.drop n) with
      | .found low high m =>
        skip (n + m)
        again (.times a low high)
      | .plain =>
        skip n
        repeated depth (.seq before a) (.char '\x7b')
      | .bad why => throw why
    | _ => sequence depth false (.seq before a)

end

/-- The regular expression that octets spell, and what there is to warn of. -/
def parseWarned (cs : Octets) : Except String (Regex × List String) :=
  match (alternatives d (4 * cs.length + 8)).run { rest := cs } with
  | .ok (a, s) => .ok (a, s.warnings)
  | .error e => .error e

/-- The regular expression that octets spell. -/
def parse (cs : Octets) : Except String Regex := (parseWarned d cs).map (·.1)

end

end Regex
end BulkSuppress.Shell
