import BulkSuppress.Shell.Sum
import BulkSuppress.Shell.Variables

/-
  Calculations in the extended dialect. A text is read and calculated at once, from left to right,
  so that what is wrong with it is found where it stands. The value of a variable is a text that is
  calculated itself; parts that do not count are read but change nothing.
-/

namespace BulkSuppress.Shell.Calculation

/-- A token of a calculation. -/
inductive Token where
  | finish
  | number
  | variable
  | sign (text : String)
deriving DecidableEq, Repr

/-- A calculation that is being read. -/
structure Scan where
  whole : Octets
  /-- What is behind the token. -/
  rest : Octets
  /-- What is left from the token on. -/
  start : Octets
  token : Token := .finish
  /-- The slot that the token names. -/
  slot : Slot := ⟨"", none⟩
  /-- The value of the token. -/
  value : Int := 0
  /-- What has just been calculated is the value of a slot, which can be set. -/
  isSlot : Bool := false
  /-- A sign in front that changes a variable has just been read. -/
  changes : Bool := false
  /-- The number of reasons why what is read does not count. -/
  skipped : Nat := 0

/-- Calculating. -/
abbrev Evaluator := StateT Scan Run

/-- The signs, longer ones first. -/
def signs : List String :=
  ["<<=", ">>=", "==", "!=", ">=", "<=", "<<", ">>", "&&", "||", "**", "*=", "/=", "%=", "+=", "-=",
    "&=", "^=", "|=", "=", ">", "<", "+", "-", "*", "/", "%", "!", "(", ")", "&", "|", "^", "~",
    "?", ":", ","]

/-- How tightly a sign binds that stands between its operands. -/
def level? : String → Option Nat
  | "||" => some 1
  | "&&" => some 2
  | "|" => some 3
  | "^" => some 4
  | "&" => some 5
  | "==" | "!=" => some 6
  | "<" | ">" | "<=" | ">=" => some 7
  | "<<" | ">>" => some 8
  | "+" | "-" => some 9
  | "*" | "/" | "%" => some 10
  | "**" => some 11
  | _ => none

/-- The operator that a sign sets a variable with; an empty one sets it to the value itself. -/
def setting? (sign : String) : Option String :=
  if sign = "=" then some ""
  else if ["==", "!=", ">=", "<="].contains sign then none
  else if sign.endsWith "=" then some (sign.dropEnd 1).copy
  else none

/-- A blank between tokens. -/
def isBlank (c : Char) : Bool := c = ' ' || c = '\t' || c = '\n'

/-- Give up: a calculation makes no sense. -/
def fail {α : Type} (why : String) : Evaluator α := do
  let s ← get
  let text := s.whole.dropWhile isBlank
  Run.warn (text ++ (": " ++ why ++ " (error token is \"").toList ++ s.start ++ "\")".toList)
  Run.status 1
  throw .discarded

/-- A power, in integers of 64 bits. -/
def power (a : Int) : Nat → Int
  | 0 => 1
  | n + 1 =>
    let half := power a ((n + 1) / 2)
    let square := Sum.wrap (half * half)
    if (n + 1) % 2 = 1 then Sum.wrap (square * a) else square
termination_by n => n

/-- The value of an operation; the right operand of a division is not zero. -/
def result (op : String) (a b : Int) : Int :=
  match op with
  | "**" => power a b.toNat
  | _ => (Sum.result? op a b).getD 0

/-- A character of a number. -/
def isNumberChar (c : Char) : Bool := isNameChar c || c = '#' || c = '@'

/-- The value of a digit in a base of at most 64. -/
def digitValue (base : Nat) (c : Char) : Nat :=
  if isDigit c then c.toNat - '0'.toNat
  else if 'a' ≤ c && c ≤ 'z' then c.toNat - 'a'.toNat + 10
  else if 'A' ≤ c && c ≤ 'Z' then c.toNat - 'A'.toNat + (if base ≤ 36 then 10 else 36)
  else if c = '@' then 62
  else 63

/-- The value of a number, whose base may be given, or what is wrong with it. -/
def digitsValue (base : Nat) (isBased : Bool) (value : Nat) : Octets → Except String Nat
  | [] => .ok value
  | '#' :: rest =>
    if isBased then .error "invalid number"
    else if value < 2 || 64 < value then .error "invalid arithmetic base"
    else if rest.head?.all (· = '#') then .error "invalid integer constant"
    else digitsValue value true 0 rest
  | c :: rest =>
    let d := digitValue base c
    if base ≤ d then .error "value too great for base"
    else digitsValue base isBased (value * base + d) rest

/-- The value of a number. -/
def numberValue (cs : Octets) : Except String Nat :=
  match cs with
  | ['0'] => .ok 0
  | '0' :: x :: rest =>
    if x = 'x' || x = 'X' then digitsValue 16 true 0 rest
    else digitsValue 8 true 0 (x :: rest)
  | cs => digitsValue 10 false 0 cs

/-- The text up to the bracket that closes an open one, and what is behind it. -/
def subscript? (open_ : Nat) : Octets → Option (Octets × Octets)
  | [] => none
  | c :: rest =>
    if c = ']' && open_ = 0 then some ([], rest)
    else
      let now := if c = '[' then open_ + 1 else if c = ']' then open_ - 1 else open_
      (subscript? now rest).map fun r => (c :: r.1, r.2)

/-- The sign at the front of a text, given the token before it. -/
def signAt (before : Token) (changes : Bool) (cs : Octets) : Except String String :=
  let double := match cs with
    | '+' :: '+' :: _ | '-' :: '-' :: _ => true
    | _ => false
  if double then
    let behind := (cs.drop 2).dropWhile isBlank
    if before = .variable then .ok (String.ofList (cs.take 2) ++ "x")
    else if before = .number && changes then
      .error (String.ofList (cs.take 2) ++ ": assignment requires lvalue")
    else if behind.head?.any startsName then .ok ("x" ++ String.ofList (cs.take 2))
    else .ok (String.ofList (cs.take 1))
  else
    match signs.find? fun s => s.toList.isPrefixOf cs with
    | some s => .ok s
    | none =>
      match before with
      | .finish | .sign _ => .error "syntax error: operand expected"
      | _ => .error "syntax error: invalid arithmetic operator"

/-- The length of the spelling of a sign. -/
def spelling (sign : String) : Nat :=
  if sign = "++x" || sign = "--x" || sign = "x++" || sign = "x--" then 2 else sign.length

/-- End what is running, since a variable has no value that it should have. -/
def unbound {α : Type} (name : Octets) : Run α := do
  Run.warn (name ++ ": unbound variable".toList)
  throw (.exit 1)

mutual

/-- The value of a text. -/
def evaluate (depth : Nat) (text : Octets) : Run Int :=
  match depth with
  | 0 => throw .discarded
  | depth + 1 => do
    if text.all isBlank then return 0
    else
      let act : Evaluator Int := do
        advance depth
        let n ← sequence depth
        if (← get).token ≠ .finish then fail "syntax error in expression"
        return n
      let (n, _) ← act.run { whole := text, rest := text, start := [] }
      return n

/-- The value of a slot, which is the value of its text. -/
def slotValue (depth : Nat) (s : Slot) : Evaluator Int :=
  match depth with
  | 0 => fail "expression recursion level exceeded"
  | depth + 1 => do
    if (← get).skipped ≠ 0 then return 0
    else
      let m ← (get : Run Machine)
      let slot := m.slot s
      let slot ← place depth slot
      match m.slotValue? slot with
      | some cs =>
        if 1 < depth then evaluate depth cs else fail "expression recursion level exceeded"
      | none =>
        if m.has 'u' then unbound s.name.toList else return 0

/-- The slot with the number of its place calculated, if its places are numbers. -/
def place (depth : Nat) (s : Slot) : Run Slot :=
  match depth with
  | 0 => return s
  | depth + 1 => do
    match s.place with
    | none => return s
    | some text =>
      let m ← get
      if m.isListed s.name then
        let n ← evaluate depth text
        let limit : Int := ((m.elements? s.name).map (·.limit)).getD 0
        let index := if n < 0 then n + limit else n
        if index < 0 then
          Run.warn (s.name.toList ++ ": bad array subscript".toList)
          Run.status 1
          throw .discarded
        return { s with place := some (toString index).toList }
      else return s

/-- Go on with the next token. -/
def advance (depth : Nat) : Evaluator Unit :=
  match depth with
  | 0 => return
  | depth + 1 => do
    let s ← get
    let cs := s.rest.dropWhile isBlank
    match cs with
    | [] => set { s with rest := [], token := .finish }
    | c :: _ =>
      set { s with start := cs }
      if startsName c then
        let name := cs.takeWhile isNameChar
        let behind := cs.drop name.length
        let (index, rest) : Option Octets × Octets ← match behind with
          | '[' :: inside =>
            match subscript? 0 inside with
            | some (index, rest) => pure (some index, rest)
            | none => fail "bad array subscript"
          | _ => pure (none, behind)
        let slot : Slot := ⟨String.ofList name, index⟩
        let next := rest.dropWhile isBlank
        let isSet := next.head? = some '=' && next.tail.head? ≠ some '='
        let changed := match s.token with
          | .sign text => text = "x++" || text = "x--" || text = "++x" || text = "--x"
          | _ => false
        set { s with start := cs, rest, token := .variable, slot }
        let value ← if isSet && !changed then pure 0 else slotValue depth slot
        modify fun s => { s with value }
      else if isDigit c then
        let digits := cs.takeWhile isNumberChar
        let rest := cs.drop digits.length
        match numberValue digits with
        | .ok n =>
          set { s with
            start := cs, rest, token := .number, value := Sum.wrap n, changes := false }
        | .error why =>
          set { s with
            start := digits, whole := s.whole.take (s.whole.length - rest.length) }
          fail why
      else
        match signAt s.token s.changes cs with
        | .ok sign =>
          set { s with start := cs, rest := cs.drop (spelling sign), token := .sign sign }
        | .error why => fail why

/-- Calculations of which the last one counts. -/
def sequence (depth : Nat) : Evaluator Int :=
  match depth with
  | 0 => fail "expression recursion level exceeded"
  | depth + 1 => do
    let n ← assignment depth
    if (← get).token = .sign "," then
      advance depth
      sequence depth
    else return n

/-- A calculation, which may set a variable. -/
def assignment (depth : Nat) : Evaluator Int :=
  match depth with
  | 0 => fail "expression recursion level exceeded"
  | depth + 1 => do
    let n ← conditional depth
    let s ← get
    let op := match s.token with
      | .sign sign => setting? sign
      | _ => none
    match op with
    | none => return n
    | some op =>
      if !s.isSlot then fail "attempted assignment to non-variable"
      advance depth
      let m ← assignment depth
      if (op = "/" || op = "%") && m = 0 && (← get).skipped = 0 then fail "division by 0"
      let value := if op.isEmpty then m
        else if (op = "/" || op = "%") && m = 0 then 0
        else result op n m
      setSlot depth s.slot value
      modify fun s => { s with isSlot := false }
      return value

/-- Set a slot, if that counts. -/
def setSlot (depth : Nat) (s : Slot) (value : Int) : Evaluator Unit :=
  match depth with
  | 0 => return
  | depth + 1 => do
    if (← get).skipped = 0 then
      let m ← (get : Run Machine)
      let target ← place depth (m.slot s)
      Run.store target (toString value).toList

/-- Calculate what does not count if a condition holds. -/
def skipping (depth : Nat) (skips : Bool) (level : Option Nat) : Evaluator Int :=
  match depth with
  | 0 => fail "expression recursion level exceeded"
  | depth + 1 => do
    if skips then modify fun s => { s with skipped := s.skipped + 1 }
    advance depth
    if level.isNone && (← get).token = .finish then fail "expression expected"
    let n ← match level with
      | some 0 => conditional depth
      | some l => operation depth l
      | none => sequence depth
    if skips then modify fun s => { s with skipped := s.skipped - 1 }
    return n

/-- A calculation, which may choose between two. -/
def conditional (depth : Nat) : Evaluator Int :=
  match depth with
  | 0 => fail "expression recursion level exceeded"
  | depth + 1 => do
    let n ← operation depth 1
    if (← get).token = .sign "?" then
      let yes ← skipping depth (n = 0) none
      if (← get).token ≠ .sign ":" then fail "\x60:' expected for conditional expression"
      let no ← skipping depth (n ≠ 0) (some 0)
      modify fun s => { s with isSlot := false }
      return if n = 0 then no else yes
    else return n

/-- A calculation with signs that bind at least as tightly as a level. -/
def operation (depth : Nat) (level : Nat) : Evaluator Int :=
  match depth with
  | 0 => fail "expression recursion level exceeded"
  | depth + 1 => do operationBehind depth level (← unary depth)

/-- What signs of a level make of a value in front of them. -/
def operationBehind (depth : Nat) (level : Nat) (n : Int) : Evaluator Int :=
  match depth with
  | 0 => fail "expression recursion level exceeded"
  | depth + 1 => do
    let s ← get
    match s.token with
    | .sign sign =>
      match level? sign with
      | none => return n
      | some own =>
        if own < level then return n
        else
          let value ← match sign with
            | "||" => do
              let m ← skipping depth (n ≠ 0) (some (own + 1))
              pure (Sum.ofBool (n ≠ 0 || m ≠ 0))
            | "&&" => do
              let m ← skipping depth (n = 0) (some (own + 1))
              pure (Sum.ofBool (n ≠ 0 && m ≠ 0))
            | _ => do
              advance depth
              let m ← operation depth (if sign = "**" then own else own + 1)
              let after ← get
              let isZero := (sign = "/" || sign = "%") && m = 0
              if isZero && after.skipped = 0 then
                set { after with start := s.rest.dropWhile isBlank }
                fail "division by 0"
              if sign = "**" && m < 0 then fail "exponent less than 0"
              pure (if isZero then 0 else result sign n m)
          modify fun s => { s with isSlot := false }
          operationBehind depth level value
    | _ => return n

/-- A value, perhaps behind signs that belong to it. -/
def unary (depth : Nat) : Evaluator Int :=
  match depth with
  | 0 => fail "expression recursion level exceeded"
  | depth + 1 => do
    match (← get).token with
    | .sign sign =>
      if ["!", "~", "-", "+"].contains sign then
        advance depth
        let n ← unary depth
        modify fun s => { s with isSlot := false }
        return if sign = "+" then n else Sum.applyUnary sign n
      else primary depth
    | _ => primary depth

/-- A number, a variable, or a calculation in parentheses. -/
def primary (depth : Nat) : Evaluator Int :=
  match depth with
  | 0 => fail "expression recursion level exceeded"
  | depth + 1 => do
    let s ← get
    match s.token with
    | .number =>
      advance depth
      modify fun s => { s with isSlot := false }
      return s.value
    | .variable =>
      advance depth
      let after ← get
      if after.token = .sign "++x" || after.token = .sign "--x" then
        let value := Sum.wrap (s.value + if after.token = .sign "++x" then 1 else -1)
        setSlot depth s.slot value
        modify fun s => { s with token := .number, changes := false }
        advance depth
        modify fun s => { s with isSlot := false }
        return s.value
      else
        set { after with slot := s.slot, isSlot := true }
        return s.value
    | .sign sign =>
      if sign = "x++" || sign = "x--" then
        advance depth
        let s ← get
        if s.token ≠ .variable then fail "syntax error: operand expected"
        let value := Sum.wrap (s.value + if sign = "x++" then 1 else -1)
        setSlot depth s.slot value
        modify fun s => { s with token := .number, changes := true }
        advance depth
        modify fun s => { s with isSlot := false, changes := false }
        return value
      else if sign = "(" then
        advance depth
        let n ← sequence depth
        if (← get).token ≠ .sign ")" then fail "missing \x60)'"
        advance depth
        modify fun s => { s with isSlot := false }
        return n
      else fail "syntax error: operand expected"
    | .finish => fail "syntax error: operand expected"

end

/-- A bound on the depth of calls. -/
def depthLimit : Nat := 6000

/-- The value of a text. -/
def value (text : Octets) : Run Int := evaluate depthLimit text

/-- The slot with the number of its place calculated, if its places are numbers. -/
def placed (s : Slot) : Run Slot := do place depthLimit ((← get).slot s)

end BulkSuppress.Shell.Calculation
