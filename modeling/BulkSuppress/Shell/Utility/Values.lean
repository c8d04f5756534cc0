import BulkSuppress.Shell.Builtin
import BulkSuppress.Shell.Numeral
import BulkSuppress.Shell.Regex.Reader
import BulkSuppress.Shell.Utility.Arguments

/-
  Utilities that work on their arguments alone, or on what they know of the system.
-/

namespace BulkSuppress.Shell.Utility

/-! ## Expressions -/

namespace Expr

/-- Why arguments are no expression, with the status that the utility ends with. -/
abbrev Problem := Octets × Nat

/-- Evaluating, with the arguments that are left. -/
abbrev Evaluator := StateT (List Octets) (Except Problem)

/-- The integer that a value is. -/
def integer? (cs : Octets) : Option Int :=
  match cs with
  | '-' :: ds => (decimal? ds).map fun n => -(n : Int)
  | ds => (decimal? ds).map fun n => (n : Int)

/-- The value is neither empty nor zero. -/
def isTrue (cs : Octets) : Bool := !cs.isEmpty && integer? cs ≠ some 0

/-- The integer that a value has to be. -/
def integer (cs : Octets) : Evaluator Int :=
  match integer? cs with
  | some n => return n
  | none => throw ("non-integer argument".toList, 2)

/-- A truth value. -/
def ofBool (b : Bool) : Octets := if b then ['1'] else ['0']

/-- What a pattern matches at the front of a text: its group, or how long the match is. -/
def matched (text pattern : Octets) : Evaluator Octets := do
  match Regex.parse { emptyRanges := true } pattern with
  | .error why => throw (why.toList, 2)
  | .ok r =>
    let s : Regex.Subject := { octets := text.toArray }
    match Regex.matchAt s r 0 with
    | some (j, held) =>
      match held.lookup 1 with
      | some (a, b) => return (s.octets.extract a b).toList
      | none => return if hasGroup r then [] else (toString j).toList
    | none => return if hasGroup r then [] else ['0']
where
  /-- The pattern has a group. -/
  hasGroup : Regex → Bool
    | .group _ _ => true
    | .seq a b | .alt a b => hasGroup a || hasGroup b
    | .times a _ _ => hasGroup a
    | _ => false

/-- The result of an operator. -/
def applied (op : String) (a b : Octets) : Evaluator Octets := do
  let compared (p : Ordering → Bool) : Octets :=
    let o := match integer? a, integer? b with
      | some x, some y => compare x y
      | _, _ => if a < b then .lt else if b < a then .gt else .eq
    ofBool (p o)
  let calculated (f : Int → Int → Int) : Evaluator Octets := do
    return (toString (f (← integer a) (← integer b))).toList
  match op with
  | "|" => return if isTrue a then a else if isTrue b then b else ['0']
  | "&" => return if isTrue a && isTrue b then a else ['0']
  | "<" => return compared (· == .lt)
  | "<=" => return compared (· != .gt)
  | "=" | "==" => return compared (· == .eq)
  | "!=" => return compared (· != .eq)
  | ">=" => return compared (· != .lt)
  | ">" => return compared (· == .gt)
  | "+" => calculated (· + ·)
  | "-" => calculated (· - ·)
  | "*" => calculated (· * ·)
  | ":" => matched a b
  | _ =>
    let _ ← integer a
    if (← integer b) = 0 then throw ("division by zero".toList, 2)
    else if op = "/" then calculated Int.tdiv else calculated Int.tmod

/-- The operators, those that bind most loosely first. -/
def levels : List (List String) :=
  [["|"], ["&"], ["<", "<=", "=", "==", "!=", ">=", ">"], ["+", "-"], ["*", "/", "%"], [":"]]

/-- Why an expression cannot go on. -/
def unfinished {α : Type} : Evaluator α := throw ("syntax error: missing argument".toList, 2)

mutual

/-- The value of operators of a level and tighter ones. -/
def level (depth : Nat) (ls : List (List String)) : Evaluator Octets :=
  match depth, ls with
  | 0, _ => unfinished
  | depth + 1, [] => primary depth
  | depth + 1, ops :: rest => do
    let a ← level depth rest
    tail depth ops rest a

/-- The operators of a level behind a value. -/
def tail (depth : Nat) (ops : List String) (rest : List (List String)) (a : Octets) :
    Evaluator Octets :=
  match depth with
  | 0 => return a
  | depth + 1 => do
    match ← get with
    | op :: args =>
      if ops.contains (String.ofList op) then
        set args
        if args.isEmpty then
          throw ("syntax error: missing argument after ".toList ++ quoted op, 2)
        let b ← level depth rest
        tail depth ops rest (← applied (String.ofList op) a b)
      else return a
    | [] => return a

/-- An argument, an expression in parentheses, or a function. -/
def primary (depth : Nat) : Evaluator Octets :=
  match depth with
  | 0 => unfinished
  | depth + 1 => do
    match ← get with
    | [] => unfinished
    | first :: args =>
      set args
      match String.ofList first with
      | "(" =>
        let a ← level depth levels
        match ← get with
        | [')'] :: rest =>
          set rest
          return a
        | _ => throw ("syntax error: expecting ')' after ".toList ++ quoted a, 2)
      | ")" => throw ("syntax error: unexpected ')'".toList, 2)
      | "length" =>
        if args.isEmpty then return first
        else return (toString (← primary depth).length).toList
      | "match" =>
        let a ← primary depth
        matched a (← primary depth)
      | "index" =>
        let a ← primary depth
        let b ← primary depth
        return (toString ((a.findIdx? b.contains).elim 0 (· + 1))).toList
      | "substr" =>
        let a ← primary depth
        let start := (integer? (← primary depth)).getD 0
        let length := (integer? (← primary depth)).getD 0
        return if start ≤ 0 || length ≤ 0 then []
          else (a.drop (start.toNat - 1)).take length.toNat
      | "+" =>
        match args with
        | a :: rest =>
          set rest
          return a
        | [] => unfinished
      | _ => return first

end

/-- The value of an expression. -/
def value (args : List Octets) : Except Problem Octets :=
  match (level (16 * args.length + 16) levels).run args with
  | .ok (a, []) => .ok a
  | .ok (_, next :: _) =>
    .error ("syntax error: unexpected argument ".toList ++ quoted next, 2)
  | .error e => .error e

end Expr

/-- Write the value of an expression. -/
def expr : Action := fun args => do
  if args.isEmpty then
    complain "expr" "missing operand".toList
    hint "expr"
    return 2
  match Expr.value args with
  | .ok cs =>
    Run.write (cs ++ ['\n'])
    return if Expr.isTrue cs then 0 else 1
  | .error (why, status) =>
    complain "expr" why
    return status

/-! ## The system -/

/-- Run a command of the shell as a program; what ends it does not end the shell. -/
def asProgram (name : String) (act : Run Unit) : Action := fun _ => do
  modify fun m => { m with builtin := some name.toList }
  act
  return (← get).status

/-- Write the working directory, by the path that the environment tells only if that is asked for. -/
def workingDirectory : Action := fun args =>
  withOptions { name := "pwd", letters := "LP", longs := [("logical", 'L'), ("physical", 'P')] } args
    fun choices operands => do
    if !operands.isEmpty then complain "pwd" "ignoring non-option arguments".toList
    let m ← get
    let told := if (choices.getLast?.map (·.letter)) = some 'L' then m.value? "PWD" else none
    let isTrue (cs : Octets) : Bool := cs.head? = some '/' &&
      (m.disk.resolve ⟨Octets.toText cs⟩).toOption = some m.disk.workingDirectory
    Run.write ((told.filter isTrue).getD (Builtin.physical m.disk) ++ ['\n'])
    return 0

/-- Write where programs are. -/
def which : Action := fun args => do
  let mut status := 0
  for name in args do
    match (← get).search name with
    | .ok path => Run.write (path ++ ['\n'])
    | .error _ => status := 1
  return status

/-- Write a fixed line. -/
def fixedLine (text : String) : Action := fun _ => do
  Run.write (text.toList ++ ['\n'])
  return 0

/-! ## Time -/

/-- A time that a text spells, in microseconds; no number stands for one without an end. -/
def interval? (cs : Octets) : Option (Option Nat) :=
  let (unit, body) : Nat × Octets := match cs.getLast? with
    | some 's' => (1, cs.dropLast)
    | some 'm' => (60, cs.dropLast)
    | some 'h' => (3600, cs.dropLast)
    | some 'd' => (86400, cs.dropLast)
    | _ => (1, cs)
  match Numeral.ofOctets? body with
  | some (.finite negative num den) =>
    if negative && num ≠ 0 then none else some (some ((num * unit * 1000000 + den - 1) / den))
  | some (.infinite false) => some none
  | _ => none

/-- The clock after a time without an end. -/
def endOfTime : Nat := 1000000000000000

/-- Wait. -/
def sleep : Action := fun args =>
  withOptions { name := "sleep", letters := "" } args fun _ operands => do
    if operands.isEmpty then
      complain "sleep" "missing operand".toList
      hint "sleep"
      return 1
    match operands.filter fun a => (interval? a).isNone with
    | [] =>
      let times := operands.filterMap interval?
      modify fun m => { m with
        clock := times.foldl (fun clock time => time.elim endOfTime (clock + ·)) m.clock }
      return 0
    | bad =>
      for cs in bad do complain "sleep" ("invalid time interval ".toList ++ quoted cs)
      hint "sleep"
      return 1

end BulkSuppress.Shell.Utility
