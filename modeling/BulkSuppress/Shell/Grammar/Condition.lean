import BulkSuppress.Shell.Grammar.Token

/-
  Reading conditions in double brackets. Their words are not replaced by other texts; parentheses,
  and signs that would be redirections elsewhere, are operators there.
-/

namespace BulkSuppress.Shell.Grammar

/-- The operators that stand in front of their operand in double brackets. -/
def unaryConditions : List String :=
  "abcdefghkprstuwxovznOGLSNR".toList.map fun c => String.ofList ['-', c]

/-- The operators that stand between their operands in double brackets. -/
def binaryConditions : List String :=
  ["=", "==", "!=", "=~", "-nt", "-ot", "-ef", "-eq", "-ne", "-lt", "-le", "-gt", "-ge"]

/-- The operators inside double brackets. -/
def conditionOperators : List String := ["&&", "||", "(", ")", "<", ">", ";", "&", "|", "\n"]

section

variable (script : (closed : Bool) → Reader Command)

/-- The token that is next in double brackets. -/
def conditionToken : Reader Token := do
  skipBlanks (← Reader.left).length
  let s ← get
  let t ← match startsWithOneOf conditionOperators s.rest with
    | some op =>
      Reader.skip op.length
      pure (Token.operator op)
    | none => if s.rest.isEmpty then pure .finish else pure (.word (← Words.word script))
  if !isOperator "\n" t then
    modify fun after => { after with last := s.rest.take (s.rest.length - after.rest.length) }
  return t

/-- The token behind line ends. -/
def conditionTokenBehindLines : Nat → Reader Token
  | 0 => conditionToken script
  | n + 1 => do
    match ← conditionToken script with
    | .operator "\n" => conditionTokenBehindLines n
    | t => return t

/-- The text of a token that is a word without quotes. -/
def plainWord? : Token → Option String
  | .word w => (bareText? w).map String.ofList
  | _ => none

/-- Give up at a token, for a reason. -/
def noCondition {α : Type} (t : Token) (reason : String → Option String) : Reader α := do
  match t with
  | .finish => Reader.exhausted
  | t =>
    let isLineEnd := t matches .operator "\n"
    if isLineEnd then modify fun s => { s with rest := '\n' :: s.rest, line := s.line - 1 }
    let last := String.ofList (← get).last
    let text := if isLineEnd then "newline" else last
    Reader.rejectLine ((reason text).toList ++ ["syntax error near \x60" ++ last ++ "'"])

/-- A text as messages name it. -/
def named (text : String) : String := "\x60" ++ text ++ "'"

/-- The operand of an operator, or a reason to give up. -/
def operand (kind : String) (read : Reader Word) : Reader Word := do
  skipBlanks (← Reader.left).length
  let s ← get
  let isOperator := (startsWithOneOf conditionOperators s.rest).isSome
  let isRegex := kind = "regex"
  if s.rest.isEmpty || (isOperator && !(isRegex && s.rest.head? = some '(')) then
    let t ← conditionToken script
    noCondition t fun text =>
      some ("unexpected argument " ++ named text ++ " to conditional " ++
        (if isRegex then "binary" else kind) ++ " operator")
  else
    let w ← read
    modify fun after => { after with last := s.rest.take (s.rest.length - after.rest.length) }
    if bareText? w = some "]]".toList then
      noCondition (.word w) fun text =>
        some ("unexpected argument " ++ named text ++ " to conditional " ++
          (if isRegex then "binary" else kind) ++ " operator")
    else return w

/-- The pattern that is next, which can have groups. -/
def groupedWord : Reader Word := do
  let before := (← get).groups
  modify fun s => { s with groups := true }
  let w ← Words.word script
  modify fun s => { s with groups := before }
  return w

mutual

/-- Alternatives. -/
def anyCondition (depth : Nat) : Reader Condition :=
  match depth with
  | 0 => Reader.exhausted
  | depth + 1 => do
    let first ← allConditions depth
    let before ← get
    let t ← conditionTokenBehindLines script before.rest.length
    if isOperator "||" t then return .either first (← anyCondition depth)
    else
      set before
      return first

/-- Conditions that all have to hold. -/
def allConditions (depth : Nat) : Reader Condition :=
  match depth with
  | 0 => Reader.exhausted
  | depth + 1 => do
    let first ← oneCondition depth
    let before ← get
    let t ← conditionTokenBehindLines script before.rest.length
    if isOperator "&&" t then return .both first (← allConditions depth)
    else
      set before
      return first

/-- A single condition. -/
def oneCondition (depth : Nat) : Reader Condition :=
  match depth with
  | 0 => Reader.exhausted
  | depth + 1 => do
    let t ← conditionTokenBehindLines script (← Reader.left).length
    match t, plainWord? t with
    | .operator "(", _ =>
      let c ← anyCondition depth
      let closing ← conditionTokenBehindLines script (← Reader.left).length
      if isOperator ")" closing then return c
      else noCondition closing fun text =>
        some ("unexpected token " ++ named text ++ ", expected \x60)'")
    | .word _, some "!" => return .opposite (← oneCondition depth)
    | .word _, some "]]" => noCondition t fun _ => none
    | .word w, text =>
      match text.filter unaryConditions.contains with
      | some operator =>
        return .unary operator (← operand script "unary" (Words.word script))
      | none =>
        let before ← get
        let after ← conditionToken script
        match after, plainWord? after with
        | .operator op, _ =>
          if op = "<" || op = ">" then
            return .binary op w (← operand script "binary" (Words.word script))
          else if ["&&", "||", ")"].contains op then
            set before
            return .unary "-n" w
          else noCondition after fun text =>
            some ("unexpected token " ++ named text ++ ", conditional binary operator expected")
        | .word _, some "]]" =>
          set before
          return .unary "-n" w
        | .word _, op =>
          match op.filter binaryConditions.contains with
          | some "=~" =>
            return .binary "=~" w (← operand script "regex" (Words.expression script))
          | some op =>
            let isPattern := ["=", "==", "!="].contains op
            return .binary op w (← operand script "binary"
              (if isPattern then groupedWord script else Words.word script))
          | none => noCondition after fun _ => some "conditional binary operator expected"
        | _, _ => noCondition after fun _ => some "conditional binary operator expected"
    | _, _ =>
      noCondition t fun text =>
        some ("unexpected token " ++ named text ++ " in conditional command")

end

/-- The condition that is next, up to the double brackets behind it. -/
def condition : Reader Condition := do
  let c ← anyCondition script (4 * (← Reader.left).length + 8)
  let t ← conditionTokenBehindLines script (← Reader.left).length
  if plainWord? t = some "]]" then return c
  else noCondition t fun _ => some "syntax error in conditional expression"

end

end BulkSuppress.Shell.Grammar
