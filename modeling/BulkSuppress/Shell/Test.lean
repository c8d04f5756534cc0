import BulkSuppress.Disk.Change
import BulkSuppress.Shell.Expansion

/-
  Tests: conditions on texts, numbers and files, given as the arguments of a command. A condition
  is read and decided at once, from left to right; every part of it is decided, also where the
  outcome is clear before.
-/

namespace BulkSuppress.Shell.Test

/-- Why arguments are no condition. -/
inductive Problem where
  /-- An operator stands where none fits. -/
  | unexpectedOperator (text : Octets)
  /-- The operand of an operator is not there. -/
  | argumentExpected (operator : Octets)
  | unclosed
  | illegalNumber (text : Octets)
deriving DecidableEq, Repr

/-- The wording of a problem. -/
def Problem.message : Problem → Octets
  | .unexpectedOperator text =>
    if text.isEmpty then "unexpected operator".toList else text ++ ": unexpected operator".toList
  | .argumentExpected operator => operator ++ ": argument expected".toList
  | .unclosed => "closing paren expected".toList
  | .illegalNumber text => "Illegal number: ".toList ++ text

/-- What an argument is, where an operator can stand. -/
inductive Token where
  | finish
  | operand
  | unary
  | binary
  | not
  | and
  | or
  | opening
  | closing
deriving DecidableEq, Repr

/-- The operators that stand in front of their operand. -/
def unaryOperators : List String :=
  ["-r", "-w", "-x", "-e", "-f", "-d", "-c", "-b", "-p", "-u", "-g", "-k", "-s", "-t", "-z", "-n",
    "-h", "-O", "-G", "-L", "-S"]

/-- The operators that stand between their operands. -/
def binaryOperators : List String :=
  ["=", "!=", "<", ">", "-eq", "-ne", "-ge", "-gt", "-le", "-lt", "-nt", "-ot", "-ef"]

/-- What the text of an argument is by itself. -/
def kindOf (cs : Octets) : Token :=
  let text := String.ofList cs
  if unaryOperators.contains text then .unary
  else if binaryOperators.contains text then .binary
  else match text with
    | "!" => .not
    | "-a" => .and
    | "-o" => .or
    | "(" => .opening
    | ")" => .closing
    | _ => .operand

/-- What the first argument is, given those behind it. -/
def tokenAt : List Octets → Token
  | [] => .finish
  | [cs] =>
    match kindOf cs with
    | .unary | .opening => .operand
    | t => t
  | [cs, _] => kindOf cs
  | cs :: next :: _ =>
    match kindOf cs with
    | .unary => if kindOf next = .binary then .operand else .unary
    | t => t

/-- Deciding, with the arguments from the present one on. -/
abbrev Decider := StateT (List Octets) (Except Problem)

/-- The arguments behind the present one. -/
def advance : Decider Unit := modify (·.drop 1)

/-- The number that an operand spells. -/
def number (cs : Octets) : Decider Int :=
  let blank (c : Char) : Bool := c = ' ' || ('\t' ≤ c && c ≤ '\r')
  let trimmed := ((cs.dropWhile blank).reverse.dropWhile blank).reverse
  let (negative, digits) := match trimmed with
    | '-' :: rest => (true, rest)
    | '+' :: rest => (false, rest)
    | rest => (false, rest)
  match decimal? digits with
  | some n => if Sum.largest < n then throw (.illegalNumber cs)
      else return if negative then -n else n
  | none => throw (.illegalNumber cs)

/-- A condition on a file. -/
def fileTest (m : Machine) (operator : String) (cs : Octets) : Bool :=
  let d := m.disk
  let path : Path := ⟨Octets.toText cs⟩
  let hasRight (bit : Nat) : Bool :=
    (d.resolve path).toOption.any fun loc => m.modeAt loc &&& bit ≠ 0
  match operator with
  | "-h" | "-L" => match d.selfAt? path with
    | some (.link _) => true
    | _ => false
  | "-f" => d.isFile path
  | "-d" => d.isDirectory path
  | "-c" => match d.stat? path with
    | some .nullDevice => true
    | _ => false
  | "-s" => match d.stat? path with
    | some (.file content _) => content.size ≠ 0
    | some .directory => true
    | _ => false
  | "-x" => match d.stat? path with
    | some (.file _ executable) => executable
    | some .directory => true
    | _ => false
  | "-e" | "-r" | "-w" | "-O" | "-G" => d.exists? path
  | "-u" => hasRight 2048
  | "-g" => hasRight 1024
  | "-k" => hasRight 512
  | _ => false

/-- The outcome of an operator in front of its operand. -/
def decideUnary (m : Machine) (operator : String) (cs : Octets) : Decider Bool := do
  match operator with
  | "-z" => return cs.isEmpty
  | "-n" => return !cs.isEmpty
  | "-t" =>
    let _ ← number cs
    return false
  | _ => return fileTest m operator cs

/-- The paths lead to the same. -/
def isSameFile (m : Machine) (a b : Octets) : Bool :=
  match m.disk.resolve ⟨Octets.toText a⟩, m.disk.resolve ⟨Octets.toText b⟩ with
  | .ok x, .ok y => (m.attributes.namesOf x).contains y
  | _, _ => false

/-- The time of the last change of what a path leads to. -/
def changeOf? (m : Machine) (cs : Octets) : Option Int :=
  match m.disk.resolve ⟨Octets.toText cs⟩ with
  | .ok loc => some (m.stampAt loc).change
  | .error _ => none

/-- Both paths lead to something, and what is at the first one was changed later. -/
def isNewer (m : Machine) (a b : Octets) : Bool :=
  match changeOf? m a, changeOf? m b with
  | some x, some y => x > y
  | _, _ => false

/-- The outcome of an operator between its operands. -/
def decideBinary (m : Machine) (operator : String) (a b : Octets) : Decider Bool := do
  let compared (f : Int → Int → Bool) : Decider Bool := do return f (← number a) (← number b)
  match operator with
  | "=" => return a = b
  | "!=" => return a ≠ b
  | "<" => return a < b
  | ">" => return b < a
  | "-eq" => compared (· = ·)
  | "-ne" => compared (· ≠ ·)
  | "-ge" => compared (· ≥ ·)
  | "-gt" => compared (· > ·)
  | "-le" => compared (· ≤ ·)
  | "-lt" => compared (· < ·)
  | "-ef" => return isSameFile m a b
  | "-nt" => return isNewer m a b
  | "-ot" => return isNewer m b a
  | _ => return false

section

variable (m : Machine)

mutual

/-- Alternatives. -/
def anyOf (depth : Nat) (t : Token) : Decider Bool :=
  match depth with
  | 0 => return false
  | depth + 1 => do
    let first ← allOf depth t
    if tokenAt ((← get).drop 1) = .or then
      modify (·.drop 2)
      let rest ← anyOf depth (tokenAt (← get))
      return first || rest
    else return first

/-- Conditions that all have to hold. -/
def allOf (depth : Nat) (t : Token) : Decider Bool :=
  match depth with
  | 0 => return false
  | depth + 1 => do
    let first ← opposite depth t
    if tokenAt ((← get).drop 1) = .and then
      modify (·.drop 2)
      let rest ← allOf depth (tokenAt (← get))
      return first && rest
    else return first

/-- A condition, or its opposite. -/
def opposite (depth : Nat) (t : Token) : Decider Bool :=
  match depth with
  | 0 => return false
  | depth + 1 => do
    if t ≠ .not then single depth t
    else
      let next := tokenAt ((← get).drop 1)
      if next ≠ .finish then advance
      return !(← opposite depth next)

/-- A single condition. -/
def single (depth : Nat) (t : Token) : Decider Bool :=
  match depth with
  | 0 => return false
  | depth + 1 => do
    match t, ← get with
    | .finish, _ | _, [] => return false
    | .opening, _ :: rest =>
      set rest
      let next := tokenAt rest
      if next = .closing then return false
      else
        let r ← anyOf depth next
        advance
        if tokenAt (← get) ≠ .closing then throw .unclosed
        return r
    | .unary, operator :: rest =>
      set rest
      match rest with
      | [] => throw (.argumentExpected operator)
      | operand :: _ => decideUnary m (String.ofList operator) operand
    | _, first :: rest =>
      if tokenAt rest = .binary then
        match rest with
        | operator :: second :: after =>
          set (second :: after)
          decideBinary m (String.ofList operator) first second
        | operator :: [] => throw (.argumentExpected operator)
        | [] => return !first.isEmpty
      else return !first.isEmpty

end

/-- The outcome of a condition that is given by all arguments. -/
def outcome (args : List Octets) : Except Problem Bool :=
  let isBinary := match args with
    | [_, operator, _] => kindOf operator = .binary
    | _ => false
  let isWrapped := (args.length = 3 || args.length = 4) && !isBinary &&
    args.head? = some ['('] && args.getLast? = some [')']
  let args := if isWrapped then (args.drop 1).dropLast else args
  let start := if isBinary then Token.operand else tokenAt args
  if args.isEmpty then .ok false
  else
    match (anyOf m (8 * args.length + 8) start).run args with
    | .error e => .error e
    | .ok (_, present :: _ :: _) => .error (.unexpectedOperator present)
    | .ok (r, _) => .ok r

end

end BulkSuppress.Shell.Test
