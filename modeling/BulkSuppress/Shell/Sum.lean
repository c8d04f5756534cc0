import BulkSuppress.Shell.Octets

/-
  Calculations of shell scripts: expressions over integers of 64 bits, with the operators and the
  precedence of C. The text is read into a term; the term is evaluated with the variables.
-/

namespace BulkSuppress.Shell

/-- An expression. -/
inductive Sum where
  | number (n : Int)
  | variable (name : String)
  | unary (op : String) (a : Sum)
  | binary (op : String) (a b : Sum)
  | choose (condition yes no : Sum)
  /-- The variable gets the value, or what an operator makes of its value and another. -/
  | assign (name : String) (op : String) (a : Sum)
deriving Inhabited

namespace Sum

/-- A token of an expression. -/
inductive Token where
  | number (n : Int)
  | name (text : String)
  | sign (text : String)
deriving DecidableEq, Repr

/-- The largest integer. -/
def largest : Int := 9223372036854775807

/-- An integer of 64 bits. -/
def wrap (n : Int) : Int := Int.bmod n 18446744073709551616

/-- The signs, longer ones first. -/
def signs : List String :=
  ["<<=", ">>=", "<<", ">>", "<=", ">=", "==", "!=", "&&", "||", "+=", "-=", "*=", "/=", "%=",
    "&=", "^=", "|=", "<", ">", "=", "!", "&", "|", "^", "+", "-", "*", "/", "%", "~", "(", ")",
    "?", ":"]

/-- The number at the front, in base ten, eight or sixteen, and how many octets spell it. -/
def numberAt (cs : Octets) : Int × Nat :=
  let (base, start) := match cs with
    | '0' :: x :: d :: _ =>
      if (x = 'x' || x = 'X') && (digitIn? 16 d).isSome then (16, 2) else (8, 0)
    | '0' :: _ => (8, 0)
    | _ => (10, 0)
  let digits := (cs.drop start).takeWhile fun c => (digitIn? base c).isSome
  (min (numberIn base digits) largest, start + digits.length)

/-- The tokens of a text; what is no token is a sign that fits nowhere. -/
def tokens (cs : Octets) : List Token :=
  match cs with
  | [] => []
  | c :: rest =>
    if " \t\n".toList.contains c then tokens rest
    else if isDigit c then
      let (n, length) := numberAt (c :: rest)
      .number n :: tokens (rest.drop (length - 1))
    else if startsName c then
      let name := (c :: rest).takeWhile isNameChar
      .name (String.ofList name) :: tokens (rest.drop (name.length - 1))
    else match signs.find? fun s => s.toList.isPrefixOf (c :: rest) with
      | some s => .sign s :: tokens (rest.drop (s.length - 1))
      | none => [.sign ""]
termination_by cs.length
decreasing_by all_goals simp only [List.length_cons, List.length_drop]; omega

/-- Reading that ends with what was expected. -/
abbrev Reader := StateT (List Token) (Except String)

/-- How tightly a sign binds, the most tightly with zero. -/
def level? (sign : String) : Option Nat :=
  let levels : List (List String) :=
    [["*", "/", "%"], ["+", "-"], ["<<", ">>"], ["<", "<=", ">", ">="], ["==", "!="], ["&"], ["^"],
      ["|"], ["&&"], ["||"]]
  levels.findIdx? fun signs => signs.contains sign

/-- The sign is next; then go on behind it. -/
def take (sign : String) : Reader Bool := do
  match ← get with
  | .sign s :: rest =>
    if s = sign then
      set rest
      return true
    else return false
  | _ => return false

mutual

/-- An expression, which may be an assignment. -/
def assignment (depth : Nat) : Reader Sum :=
  match depth with
  | 0 => throw "expecting primary"
  | depth + 1 => do
    match ← get with
    | .name x :: .sign s :: rest =>
      if s = "=" || (s.length ≥ 2 && s.endsWith "=" && (level? s).isNone) then
        set rest
        return .assign x (s.dropEnd 1).copy (← assignment depth)
      else conditional depth
    | _ => conditional depth

/-- An expression, which may choose between two. -/
def conditional (depth : Nat) : Reader Sum :=
  match depth with
  | 0 => throw "expecting primary"
  | depth + 1 => do
    let a ← operation depth 9
    if ← take "?" then
      let b ← assignment depth
      if !(← take ":") then throw "expecting ':'"
      return .choose a b (← conditional depth)
    else return a

/-- An expression of operators that bind at least as tightly as a level. -/
def operation (depth : Nat) (level : Nat) : Reader Sum :=
  match depth with
  | 0 => throw "expecting primary"
  | depth + 1 => do
    let a ← match level with
      | 0 => primary depth
      | level + 1 => operation depth level
    operationTail depth level a

/-- The operators of a level behind an expression. -/
def operationTail (depth : Nat) (level : Nat) (a : Sum) : Reader Sum :=
  match depth with
  | 0 => throw "expecting primary"
  | depth + 1 => do
    match ← get with
    | .sign s :: rest =>
      if level? s = some level then
        set rest
        let b ← match level with
          | 0 => primary depth
          | level + 1 => operation depth level
        operationTail depth level (.binary s a b)
      else return a
    | _ => return a

/-- A number, a variable, or an expression in parentheses or behind a sign. -/
def primary (depth : Nat) : Reader Sum :=
  match depth with
  | 0 => throw "expecting primary"
  | depth + 1 => do
    match ← get with
    | .number n :: rest =>
      set rest
      return .number n
    | .name x :: rest =>
      set rest
      return .variable x
    | .sign "(" :: rest =>
      set rest
      let a ← assignment depth
      if !(← take ")") then throw "expecting ')'"
      return a
    | .sign "+" :: rest =>
      set rest
      primary depth
    | .sign s :: rest =>
      if ["-", "!", "~"].contains s then
        set rest
        return .unary s (← primary depth)
      else throw "expecting primary"
    | [] => throw "expecting primary"

end

/-- The expression of a text, or what was expected in it. -/
def parse (cs : Octets) : Except String Sum := do
  let ts := tokens cs
  let (a, rest) ← (assignment (24 * ts.length + 24)).run ts
  if rest.isEmpty then return a else throw "expecting EOF"

/-! ## Values -/

/-- A truth value as a number. -/
def ofBool (b : Bool) : Int := if b then 1 else 0

/-- The value of an operation on two numbers; a division by zero has none. -/
def result? (op : String) (a b : Int) : Option Int :=
  let word (n : Int) : Int64 := Int64.ofInt n
  match op with
  | "*" => some (wrap (a * b))
  | "/" => if b = 0 then none else some (wrap (a.tdiv b))
  | "%" => if b = 0 then none else some (wrap (a.tmod b))
  | "+" => some (wrap (a + b))
  | "-" => some (wrap (a - b))
  | "<<" => some ((word a) <<< (word b)).toInt
  | ">>" => some ((word a) >>> (word b)).toInt
  | "<" => some (ofBool (a < b))
  | "<=" => some (ofBool (a ≤ b))
  | ">" => some (ofBool (a > b))
  | ">=" => some (ofBool (a ≥ b))
  | "==" => some (ofBool (a = b))
  | "!=" => some (ofBool (a ≠ b))
  | "&" => some ((word a) &&& (word b)).toInt
  | "^" => some ((word a) ^^^ (word b)).toInt
  | "|" => some ((word a) ||| (word b)).toInt
  | _ => some b

/-- The value of an operation on one number. -/
def applyUnary (op : String) (a : Int) : Int :=
  match op with
  | "-" => wrap (-a)
  | "!" => ofBool (a = 0)
  | _ => wrap (-a - 1)

section

variable {m : Type → Type} [Monad m]
variable (look : String → m Int) (store : String → Int → m Unit) (undefined : m Int)

/-- The value of an expression, where variables are looked up and set. -/
def value : Sum → m Int
  | .number n => return n
  | .variable x => look x
  | .unary op a => do return applyUnary op (← value a)
  | .binary "&&" a b => do
    if (← value a) = 0 then return 0 else return ofBool ((← value b) ≠ 0)
  | .binary "||" a b => do
    if (← value a) ≠ 0 then return 1 else return ofBool ((← value b) ≠ 0)
  | .binary op a b => do
    let x ← value a
    let y ← value b
    match result? op x y with
    | some n => return n
    | none => undefined
  | .choose c a b => do
    if (← value c) ≠ 0 then value a else value b
  | .assign name op a => do
    let y ← value a
    let n ← if op.isEmpty then pure y
      else do
        match result? op (← look name) y with
        | some n => pure n
        | none => undefined
    store name n
    return n

end

end Sum
end BulkSuppress.Shell
