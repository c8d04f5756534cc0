import BulkSuppress.Shell.Extended.Assign
import BulkSuppress.Shell.Regex.Reader
import BulkSuppress.Shell.Test

/-
  Conditions in the extended dialect: as arguments of a command, where their number decides how they
  are read, and in double brackets, where words are patterns and calculations.
-/

namespace BulkSuppress.Shell.Extended

/-! ## Single conditions -/

/-- The operators that stand in front of their operand. -/
def unaryOperators : List String :=
  "abcdefghknoprstuvwxzGLOSNR".toList.map fun c => String.ofList ['-', c]

/-- The operators that stand between numbers. -/
def numberOperators : List String := ["-eq", "-ne", "-lt", "-le", "-gt", "-ge"]

/-- The operators that stand between operands. -/
def binaryOperators : List String := ["=", "==", "!=", "<", ">", "-nt", "-ot", "-ef"] ++ numberOperators

/-- A variable has a value, or an element that is named. -/
def isGiven (cs : Octets) : Run Bool := do
  if isName (Slot.ofText cs).name.toList then return (← heldByText cs).isThere true
  else return false

/-- The outcome of an operator in front of its operand. -/
def unaryTest (operator : String) (cs : Octets) : Run Bool := do
  let m ← get
  match operator with
  | "-z" => return cs.isEmpty
  | "-n" => return !cs.isEmpty
  | "-t" => return false
  | "-a" => return Test.fileTest m "-e" cs
  | "-v" => isGiven cs
  | "-R" => return (m.binding? (String.ofList cs)).any fun v => v.leads
  | "-o" =>
    return (Switches.options.find? fun o => o.1.toList = cs).any fun o => m.isSetByName o.1 o.2
  | operator => return Test.fileTest m operator cs

/-- The outcome of a comparison of numbers. -/
def comparesNumbers (operator : String) (a b : Int) : Bool :=
  match operator with
  | "-eq" => a = b
  | "-ne" => a ≠ b
  | "-lt" => a < b
  | "-le" => a ≤ b
  | "-gt" => b < a
  | _ => b ≤ a

/-- The outcome of a comparison of files. -/
def comparesFiles (m : Machine) (operator : String) (a b : Octets) : Bool :=
  let isNewer (a b : Octets) : Bool := (Test.changeOf? m a).isSome &&
    ((Test.changeOf? m b).isNone || Test.isNewer m a b)
  match operator with
  | "-ef" => Test.isSameFile m a b
  | "-nt" => isNewer a b
  | _ => isNewer b a

/-! ## Conditions as arguments -/

/-- Deciding, with the arguments that are left; what is wrong is told as a message. -/
abbrev Decider := ExceptT Octets (StateT (List Octets) Run)

namespace Decider

/-- Go on behind an argument; there has to be another one if that is said. -/
def advance (needsMore : Bool) : Decider Unit := do
  modify (·.drop 1)
  if needsMore && (← get).isEmpty then throw "argument expected".toList

/-- The number that an operand spells. -/
def number (cs : Octets) : Decider Int := do
  match number? cs with
  | some n => return n
  | none => throw (cs ++ ": integer expression expected".toList)

/-- The outcome of an operator between its operands. -/
def binary (operator : String) (a b : Octets) : Decider Bool := do
  match operator with
  | "=" | "==" => return a = b
  | "!=" => return a ≠ b
  | "<" => return a < b
  | ">" => return b < a
  | operator =>
    if numberOperators.contains operator then
      return comparesNumbers operator (← number a) (← number b)
    else
      let m ← (get : Run Machine)
      return comparesFiles m operator a b

/-- The outcome of an operator in front of its operand. -/
def unary (operator : String) (cs : Octets) : Decider Bool :=
  (unaryTest operator cs : Run Bool)

mutual

/-- Alternatives. -/
def anyOf (closing : Octets) : Nat → Decider Bool
  | 0 => return false
  | depth + 1 => do
    if (← get).isEmpty then throw "argument expected".toList
    let first ← allOf closing depth
    if (← get).head? = some "-o".toList then
      advance false
      let rest ← anyOf closing depth
      return first || rest
    else return first

/-- Conditions that all have to hold. -/
def allOf (closing : Octets) : Nat → Decider Bool
  | 0 => return false
  | depth + 1 => do
    let first ← single closing depth
    if (← get).head? = some "-a".toList then
      advance false
      let rest ← allOf closing depth
      return first && rest
    else return first

/-- A single condition, or its opposite. -/
def single (closing : Octets) : Nat → Decider Bool
  | 0 => return false
  | depth + 1 => do
    match ← get with
    | [] => throw "argument expected".toList
    | ['!'] :: _ =>
      advance true
      return !(← single closing depth)
    | ['('] :: _ =>
      advance true
      let r ← anyOf closing depth
      match ← get with
      | [] => throw ("\x60)' expected".toList ++ closing)
      | cs :: _ =>
        if cs ≠ [')'] then throw ("\x60)' expected, found ".toList ++ cs)
        advance false
        return r
    | first :: rest =>
      match rest with
      | operator :: second :: after =>
        if binaryOperators.contains (String.ofList operator) then
          set after
          binary (String.ofList operator) first second
        else front first rest
      | _ => front first rest
where
  /-- The outcome of an argument that stands in front of its operand or by itself. -/
  front (first : Octets) (rest : List Octets) : Decider Bool := do
    match unaryOperators.contains (String.ofList first), rest with
    | true, operand :: after =>
      set after
      unary (String.ofList first) operand
    | _, _ =>
      set rest
      return !first.isEmpty

end

/-- The outcome of two arguments. -/
def ofTwo (first second : Octets) : Decider Bool := do
  if first = ['!'] then return second.isEmpty
  else if first.head? = some '-' && first.length = 2 &&
      unaryOperators.contains (String.ofList first) then
    unary (String.ofList first) second
  else throw (first ++ ": unary operator expected".toList)

/-- The outcome of three arguments. -/
def ofThree (first second third : Octets) : Decider Bool := do
  if binaryOperators.contains (String.ofList second) then
    binary (String.ofList second) first third
  else if second = "-a".toList then return !first.isEmpty && !third.isEmpty
  else if second = "-o".toList then return !first.isEmpty || !third.isEmpty
  else if first = ['!'] then return !(← ofTwo second third)
  else if first = ['('] && third = [')'] then return !second.isEmpty
  else throw (second ++ ": binary operator expected".toList)

/-- The outcome of all arguments. -/
def ofAll (closing : Octets) (args : List Octets) : Decider Bool := do
  let whole : Decider Bool := do
    let r ← anyOf closing (8 * args.length + 8)
    if !(← get).isEmpty then throw "too many arguments".toList
    return r
  match args with
  | [] => return false
  | [a] => return !a.isEmpty
  | [a, b] => ofTwo a b
  | [a, b, c] => ofThree a b c
  | [a, b, c, d] =>
    if a = ['!'] then return !(← ofThree b c d)
    else if a = ['('] && d = [')'] then ofTwo b c
    else whole
  | _ => whole

end Decider

/-- Decide a condition; `closing` is how it says what stands where it ends. -/
def decide' (closing : Octets) (args : List Octets) : Run Unit := do
  let (r, _) ← ((Decider.ofAll closing args).run.run args : Run _)
  match r with
  | .ok r => Run.status (if r then 0 else 1)
  | .error why => refuse why 2

/-- Decide a condition. -/
def test (args : List Octets) : Run Unit := decide' [] args

/-- Decide a condition in brackets, of which the last argument is the closing one. -/
def bracketTest (args : List Octets) : Run Unit := do
  if args.getLast? = some [']'] then decide' ", found ]".toList args.dropLast
  else refuse "missing \x60]'".toList 2

/-! ## Conditions in double brackets -/

/-- The octets of pieces as a regular expression, in which what is quoted stands for itself. -/
def expressionOf (pieces : List Piece) : Octets :=
  (markedOf pieces).flatMap fun (c, quoted) =>
    if quoted && "\\.[](){}*+?^$|".toList.contains c then ['\\', c] else [c]

/-- The octets of pieces as a pattern that is shown, with a backslash in front of what is quoted. -/
def patternShown (pieces : List Piece) : Octets :=
  (markedOf pieces).flatMap fun (c, quoted) => if quoted then ['\\', c] else [c]

/-- How regular expressions are written in conditions. -/
def expressionDialect : Regex.Dialect := { extended := true, strictStart := true }

/-- Look for a regular expression, and keep what its groups hold. -/
def matchesExpression (text pattern : Octets) : Run Nat := do
  let m ← get
  match Regex.parse expressionDialect pattern with
  | .error _ => return 2
  | .ok r =>
    let s : Regex.Subject := { octets := text.toArray, foldsCase := m.isOn "nocasematch" }
    let found := Regex.find? s r 0
    let part (first behind : Nat) : Octets := (s.octets.extract first behind).toList
    let values := match found with
      | some (i, j, held) =>
        part i j :: (List.range r.groupCount).map fun n =>
          (held.lookup (n + 1)).elim [] fun place => part place.1 place.2
      | none => []
    modify (·.withVariable "BASH_REMATCH"
      (some { elements := some (.ofList values), isFilled := true }))
    return if found.isSome then 0 else 1

section

variable (run : Command → Run Unit)

/-- Show a condition before it is decided, if that is asked for. -/
def showCondition (show' : Octets → Run Unit) (isOff : Bool) (parts : List Octets) : Run Unit := do
  if (← get).isChosen 'x' then
    show' ("[[ ".toList ++ (if isOff then ['!', ' '] else []) ++ Octets.join [' '] parts ++
      " ]]".toList)

/-- The text of an operand, as it is shown. -/
def shownOperand (cs : Octets) : Octets := if cs.isEmpty then "''".toList else cs

/-- The status of an operator between operands in double brackets. -/
def binaryCondition (show' : List Octets → Run Unit) (operator : String) (a b : Word) :
    Run Nat := do
  let ofBool (b : Bool) : Nat := if b then 0 else 1
  let left ← textOf run a
  let telling (right : Octets) : Run Unit :=
    show' [shownOperand left, operator.toList, shownOperand right]
  let m ← get
  if operator = "=" || operator = "==" || operator = "!=" then
    let folds := m.isOn "nocasematch"
    let pieces ← layOut run { parts := false, home := true } b
    telling (patternShown pieces)
    let g : Globbing := { groups := true, foldsCase := folds }
    let ps := g.parts (Shell.unescaped (markedOf pieces))
    let isThere := isMatch ps (if folds then left.map Char.toLower else left)
    return ofBool (isThere != (operator = "!="))
  else if operator = "=~" then
    let pattern := expressionOf (← layOut run { parts := false, home := true } b)
    telling pattern
    matchesExpression left pattern
  else
    let right ← textOf run b
    telling right
    if operator = "<" then return ofBool (left < right)
    else if operator = ">" then return ofBool (right < left)
    else if numberOperators.contains operator then
      let x ← Calculation.value left
      let y ← Calculation.value right
      return ofBool (comparesNumbers operator x y)
    else return ofBool (comparesFiles m operator left right)

/-- The status of a condition in double brackets. -/
def conditionStatus (show' : Octets → Run Unit) (isOff : Bool) : Condition → Run Nat
  | .unary operator w => do
    let cs ← textOf run w
    showCondition show' isOff [operator.toList, shownOperand cs]
    return if ← unaryTest operator cs then 0 else 1
  | .binary operator a b => binaryCondition run (showCondition show' isOff) operator a b
  | .opposite c => do
    let status ← conditionStatus show' (!isOff) c
    return if status = 0 then 1 else if status = 1 then 0 else status
  | .both first second => do
    let status ← conditionStatus show' isOff first
    if status = 0 then conditionStatus show' isOff second else return status
  | .either first second => do
    let status ← conditionStatus show' isOff first
    if status = 0 then return status else conditionStatus show' isOff second

/-- Decide a condition in double brackets. -/
def decideCondition (show' : Octets → Run Unit) (c : Condition) : Run Unit := do
  let before := (← get).builtin
  modify fun m => { m with builtin := some "[[".toList }
  let r ← Run.observed do Run.status (← conditionStatus run show' false c)
  modify fun m => { m with builtin := before }
  match r with
  | .error .discarded => Run.status 1
  | .error e => throw e
  | .ok () => return

end

end BulkSuppress.Shell.Extended
