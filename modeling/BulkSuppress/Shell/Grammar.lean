import BulkSuppress.Shell.Grammar.Condition

/-
  Reading commands. A script is read one line at a time, so that a line is run before anything
  that is wrong behind it is found; a command that goes over several lines is read as a whole. The
  functions take a bound on the depth of their calls, each of which stands for something that was
  read.
-/

namespace BulkSuppress.Shell.Grammar

section

variable (script : (closed : Bool) → Reader Command)

/-! ## Parts of commands -/

/-- The name and the value of an assignment. -/
def assignment? : Word → Option (String × Word)
  | .text cs false :: rest =>
    let name := cs.takeWhile (· ≠ '=')
    let value := cs.drop (name.length + 1)
    if isName name && name.length < cs.length then
      some (String.ofList name, if value.isEmpty then rest else .text value false :: rest)
    else none
  | _ => none

/-- The commands that end a script when they fail, and that no function can be called. -/
def specialNames : List String :=
  [".", ":", "break", "continue", "eval", "exec", "exit", "export", "local", "readonly", "return",
    "set", "shift", "times", "trap", "unset"]

/-- The name that a token has to be; in the extended dialect that is found out when it is used. -/
def loopVariable (t : Token) : Reader String := do
  let extended ← Reader.isExtended
  let name := match t with
    | .word w => (bareText? w).filter fun cs => extended || isName cs
    | _ => none
  match name with
  | some cs => return String.ofList cs
  | none => if extended then unexpected t else Reader.reject "Bad for loop variable"

/-- The commands that take assignments as arguments in the extended dialect. -/
def declaringNames : List String := ["declare", "export", "local", "readonly", "typeset"]

/-- A command with these words takes assignments as arguments. -/
def declares : List Word → Bool
  | w :: rest =>
    match bareText? w with
    | some cs =>
      let text := String.ofList cs
      declaringNames.contains text || ((text = "command" || text = "builtin") && declares rest)
    | none => false
  | [] => false

/-- A token that can only stand behind a list of commands. -/
def endsList : Token → Bool
  | .finish => true
  | .operator op => [")", ";;", ";&", ";;&"].contains op
  | .keyword word => ["do", "done", "elif", "else", "esac", "fi", "then", "\x7d"].contains word
  | _ => false

/-- One command after the other. -/
def andThen : Command → Command → Command
  | .nothing, c => c
  | c, d => .sequence c d

/-- What the words of a simple command are. -/
structure Simple where
  assignments : List Assignment := []
  words : List Word := []
  redirections : List Redirection := []

/--
The line of a simple command behind another token of it: in the extended dialect, the one where its
first token ends, or its second one if the first one is a word.
-/
def lineBehind (line : Nat) (s : Simple) (t : Token) : Reader Nat := do
  let now ← get
  let isSecond := s.words.length ≤ 1 && s.assignments.isEmpty && s.redirections.isEmpty
  let counts := match t with
    | .word _ | .assignment _ => isSecond
    | .redirection _ => isSecond && s.words.isEmpty
    | _ => false
  return if now.dialect = .extended && counts then now.line else line

/-- The words up to a token that is none, and that token. -/
def words (depth : Nat) : Reader (List Word × Token) :=
  match depth with
  | 0 => Reader.exhausted
  | depth + 1 => do
    match ← next script false false with
    | .word w =>
      let rest ← words depth
      return (w :: rest.1, rest.2)
    | t => return ([], t)

/-- The redirections behind a compound command. -/
def redirections (depth : Nat) : Reader (List Redirection) :=
  match depth with
  | 0 => Reader.exhausted
  | depth + 1 => do
    match ← next script false true with
    | .redirection rs => return rs ++ (← redirections depth)
    | t =>
      giveBack t
      return []

/-- The word that a token is taken for in a pattern. -/
def patternOf : Token → Word
  | .word w => w
  | .keyword text => [.text text.toList false]
  | _ => []

/-- The patterns of an arm from a token on, up to the parenthesis behind them. -/
def patterns (depth : Nat) (t : Token) : Reader (List Word) :=
  match depth with
  | 0 => Reader.exhausted
  | depth + 1 => do
    let after ← next script false false
    if isOperator "|" after then
      return patternOf t :: (← patterns depth (← next script false false))
    else if isOperator ")" after then return [patternOf t]
    else unexpectedFor after (.operator ")")

/-- The token has to be an operator. -/
def demandOperator (text : String) (t : Token) : Reader Unit :=
  if isOperator text t then return else unexpectedFor t (.operator text)

/-- Nothing follows whose time could be told. -/
def endsTimed : Token → Bool
  | .finish => true
  | .operator op => [";", "\n", "&&", "||", "&", ")"].contains op
  | _ => false

/-- The calculation that is next, behind one parenthesis, if it is one. -/
def calculation? : Reader (Option Command) := do
  let before ← get
  if before.dialect = .common || before.rest.head? ≠ some '(' then return none
  else
    Reader.skip 1
    let body ← Words.sum script
    match ← Reader.left with
    | ')' :: ')' :: _ =>
      Reader.skip 2
      return some (.calculation before.line body)
    | [] => Reader.unclosed "" ')' before.line
    | _ =>
      set before
      return none

/-- The calculations that a loop is about, if they are next. -/
def countedHead? : Reader (Option (Word × Word × Word)) := do
  skipBlanks (← Reader.left).length
  let before ← get
  if before.dialect = .common || !("((".toList.isPrefixOf before.rest) then return none
  else
    Reader.skip 2
    let start ← Words.upTo script ';'
    Reader.skip 1
    let condition ← Words.upTo script ';'
    Reader.skip 1
    let step ← Words.sum script
    Reader.skip 2
    return some (start, condition, step)

/-- The redirection of errors to the output. -/
def errorsToOutput : Redirection := .mk 2 .duplicate [.text ['1'] false]

/-- The command with its errors written to its output. -/
def withErrors : Command → Command
  | .simple line assignments words rs => .simple line assignments words (rs ++ [errorsToOutput])
  | .subshell line c rs => .subshell line c (rs ++ [errorsToOutput])
  | .redirected line c rs => .redirected line c (rs ++ [errorsToOutput])
  | c => .redirected 0 c [errorsToOutput]

/-- The command with redirections, if there are any. -/
def withRedirections (line : Nat) (c : Command) (rs : List Redirection) : Command :=
  match c, rs with
  | .subshell line c _, rs => .subshell line c rs
  | c, [] => c
  | c, rs => .redirected line c rs

/-! ## Commands -/

/-- How a list of commands may end. -/
inductive Extent where
  /-- With its line. -/
  | line
  /-- With what can only stand behind it, but not at once. -/
  | some
  /-- With what can only stand behind it. -/
  | any
deriving DecidableEq, Repr

mutual

/-- The commands of a list, behind those in `before`; nothing if the script ends at once. -/
def list (depth : Nat) (extent : Extent) (before : Option Command) : Reader (Option Command) :=
  match depth with
  | 0 => Reader.exhausted
  | depth + 1 => do
    let t ← next script (extent ≠ .line) true true
    match t with
    | .operator "\n" =>
      Words.awaitedDocuments script
      return some (before.getD .nothing)
    | .finish =>
      Words.awaitedDocuments script
      giveBack .finish
      return if extent = .line then before else some (before.getD .nothing)
    | t =>
      giveBack t
      if (extent = .any || (extent = .some && before.isSome)) && endsList t then
        return some (before.getD .nothing)
      else
        let c ← andOr depth
        let after ← next script false false
        let isBackground := isOperator "&" after
        let c := andThen (before.getD .nothing) (if isBackground then .background c else c)
        if isBackground || isOperator ";" after then list depth extent (some c)
        else if isOperator "\n" after || after matches .finish then
          giveBack after
          list depth extent (some c)
        else if extent = .line then unexpected after
        else
          giveBack after
          return some c

/-- The commands of a list inside a command. -/
def inner (depth : Nat) (extent : Extent) : Reader Command :=
  match depth with
  | 0 => Reader.exhausted
  | depth + 1 => do return (← list depth extent none).getD .nothing

/-- A command and what depends on how it ends. -/
def andOr (depth : Nat) : Reader Command :=
  match depth with
  | 0 => Reader.exhausted
  | depth + 1 => do andOrTail depth (← pipeline depth false)

/-- What depends on how the commands before end. -/
def andOrTail (depth : Nat) (c : Command) : Reader Command :=
  match depth with
  | 0 => Reader.exhausted
  | depth + 1 => do
    let t ← next script false false
    if isOperator "&&" t then andOrTail depth (.both c (← pipeline depth true))
    else if isOperator "||" t then andOrTail depth (.either c (← pipeline depth true))
    else
      giveBack t
      return c

/-- Commands of which each reads what the one before it writes. -/
def pipeline (depth : Nat) (behindLines : Bool) : Reader Command :=
  match depth with
  | 0 => Reader.exhausted
  | depth + 1 => do
    let t ← next script behindLines true true
    let extended ← Reader.isExtended
    if isKeyword "!" t then
      if extended then return .opposite (← pipeline depth false)
      else return .opposite (← plainPipeline depth)
    else if isKeyword "time" t then
      let after ← next script false true true
      let portably := match after with
        | .word w => bareText? w = some ['-', 'p']
        | _ => false
      if !portably then giveBack after
      if endsTimed after then return .timed portably .nothing
      else return .timed portably (← pipeline depth false)
    else
      giveBack t
      plainPipeline depth

/-- Commands of which each reads what the one before it writes, without a sign in front. -/
def plainPipeline (depth : Nat) : Reader Command :=
  match depth with
  | 0 => Reader.exhausted
  | depth + 1 => do
    let first ← command depth false
    let rest ← pipelineTail depth first
    match rest with
    | [c] => return c
    | cs => return .pipeline cs

/-- A command and those behind the pipes that follow. -/
def pipelineTail (depth : Nat) (first : Command) : Reader (List Command) :=
  match depth with
  | 0 => Reader.exhausted
  | depth + 1 => do
    let t ← next script false false
    if isOperator "|" t then return first :: (← pipelineTail depth (← command depth true))
    else if isOperator "|&" t then
      return withErrors first :: (← pipelineTail depth (← command depth true))
    else
      giveBack t
      return [first]

/-- A command. -/
def command (depth : Nat) (behindLines : Bool) : Reader Command :=
  match depth with
  | 0 => Reader.exhausted
  | depth + 1 => do
    let line := (← get).line
    let t ← next script behindLines true true
    match t with
    | .word _ | .assignment _ | .redirection _ =>
      giveBack t
      let line := (← get).line
      simple depth line {}
    | .operator "(" =>
      if let some c ← calculation? script then
        return withRedirections (← get).line c (← redirections script depth)
      let c ← inner depth .some
      demandOperator ")" (← next script false false)
      return withRedirections line (.subshell line c []) (← redirections script depth)
    | .keyword _ =>
      let c ← compound depth line t
      return withRedirections line c (← redirections script depth)
    | t => unexpected t

/-- The compound command that a keyword starts. -/
def compound (depth : Nat) (line : Nat) (t : Token) : Reader Command :=
  match depth with
  | 0 => Reader.exhausted
  | depth + 1 => do
    match t with
    | .keyword "if" => branch depth
    | .keyword "\x7b" =>
      let c ← inner depth .some
      demand "\x7d" (← next script false false)
      return c
    | .keyword "for" =>
      match ← countedHead? script with
      | some (start, condition, step) =>
        let t ← next script true true
        let t ← if isOperator ";" t then next script true true else pure t
        return .counted line start condition step (← body depth t)
      | none =>
        let (name, items, t) ← eachHead depth
        return .each line name items (← body depth t)
    | .keyword "select" =>
      let (name, items, t) ← eachHead depth
      return .menu line name items (← body depth t)
    | .keyword "function" =>
      let name ← match ← next script false false with
        | .word w => match bareText? w with
          | some cs => pure (String.ofList cs)
          | none => unexpected (.word w)
        | t => unexpected t
      let t ← next script true true
      if isOperator "(" t then
        demandOperator ")" (← next script false false)
        definition depth name (← next script true true)
      else definition depth name t
    | .keyword "[[" => return .condition line (← condition script)
    | .keyword "case" =>
      let subject ← match ← next script false false with
        | .word w => pure w
        | t => unexpectedFor t (.word [])
      demand "in" (← next script true true)
      return .choose line subject (← arms depth)
    | t =>
      let isUntil := isKeyword "until" t
      if !isUntil && !isKeyword "while" t then unexpected t
      let condition ← inner depth .some
      demand "do" (← next script false false)
      let body ← inner depth .some
      demand "done" (← next script false false)
      return .loop isUntil condition body

/-- The name and the items of a loop, and the token behind them. -/
def eachHead (depth : Nat) : Reader (String × List Word × Token) :=
  match depth with
  | 0 => Reader.exhausted
  | depth + 1 => do
    let name ← loopVariable (← next script false false)
    let t ← next script true true
    if isKeyword "in" t then
      let (ws, after) ← words script depth
      if !(isOperator "\n" after || isOperator ";" after) then unexpected after
      if isOperator "\n" after then Words.awaitedDocuments script
      return (name, ws, ← next script true true)
    else
      let t ← if isOperator ";" t then next script true true else pure t
      return (name, [[.parameter (.named "@") .value true]], t)

/-- The body of a loop, from its first token on. -/
def body (depth : Nat) (t : Token) : Reader Command :=
  match depth with
  | 0 => Reader.exhausted
  | depth + 1 => do
    let isBraced := isKeyword "\x7b" t && (← Reader.isExtended)
    if !isBraced then demand "do" t
    let c ← inner depth .some
    demand (if isBraced then "\x7d" else "done") (← next script false false)
    return c

/-- The definition of a function, from the first token of its body on. -/
def definition (depth : Nat) (name : String) (t : Token) : Reader Command :=
  match depth with
  | 0 => Reader.exhausted
  | depth + 1 => do
    match t with
    | .keyword _ | .operator "(" =>
      giveBack t
      return .define name (← command depth true)
    | t => unexpected t

/-- A branching command, behind the keyword that starts it. -/
def branch (depth : Nat) : Reader Command :=
  match depth with
  | 0 => Reader.exhausted
  | depth + 1 => do
    let condition ← inner depth .some
    demand "then" (← next script false false)
    let yes ← inner depth .some
    let t ← next script false false
    if isKeyword "elif" t then return .branch condition yes (← branch depth)
    else if isKeyword "else" t then
      let no ← inner depth .some
      demand "fi" (← next script false false)
      return .branch condition yes no
    else
      demand "fi" t
      return .branch condition yes .nothing

/-- The arms of a choosing command, up to the keyword that ends it. -/
def arms (depth : Nat) : Reader (List (List Word × Command × Sequel)) :=
  match depth with
  | 0 => Reader.exhausted
  | depth + 1 => do
    let t ← next script true true
    if isKeyword "esac" t then return []
    else
      let t ← if isOperator "(" t then next script false false else pure t
      let ps ← patterns script depth t
      let body ← inner depth .any
      let after ← next script true true
      if isKeyword "esac" after then return [(ps, body, .done)]
      else if isOperator ";;" after then return (ps, body, .done) :: (← arms depth)
      else if isOperator ";&" after then return (ps, body, .fallThrough) :: (← arms depth)
      else if isOperator ";;&" after then return (ps, body, .goOn) :: (← arms depth)
      else unexpectedFor after (.operator ";;")

/-- A simple command, or the definition of a function, behind some of its words. -/
def simple (depth : Nat) (line : Nat) (s : Simple) : Reader Command :=
  match depth with
  | 0 => Reader.exhausted
  | depth + 1 => do
    let isStart := s.words.isEmpty
    let assigns := isStart || declares s.words
    let t ← nextOf script false false isStart assigns replacementLimit
    let line ← lineBehind line s t
    match t with
    | .word w =>
      match if isStart && !(← Reader.isExtended) then assignment? w else none with
      | some (name, value) =>
        simple depth line { s with assignments := s.assignments ++ [.mk name none false value] }
      | none => simple depth line { s with words := s.words ++ [w] }
    | .assignment a =>
      if isStart then simple depth line { s with assignments := s.assignments ++ [a] }
      else simple depth line { s with words := s.words ++ [[.assigned a]] }
    | .redirection rs => simple depth line { s with redirections := s.redirections ++ rs }
    | t =>
      match isOperator "(" t, s with
      | true, ⟨[], [name], []⟩ =>
        demandOperator ")" (← next script false false)
        if ← Reader.isExtended then
          match bareText? name with
          | some cs => definition depth (String.ofList cs) (← next script true true)
          | none => unexpected t
        else
          match bareText? name with
          | some cs =>
            let text := String.ofList cs
            if !isName cs || specialNames.contains text then Reader.reject "Bad function name"
            return .define text (← command depth true)
          | none => Reader.reject "Bad function name"
      | _, _ =>
        giveBack t
        return .simple line s.assignments s.words s.redirections

end

end

/-- A bound on the depth of calls that reading a text of some length takes. -/
def depthFor (length : Nat) : Nat := 8 * length + 64

/-- The script inside a word. -/
def nested : Nat → (closed : Bool) → Reader Command
  | 0, _ => Reader.exhausted
  | depth + 1, closed => do
    let script := nested depth
    let c ← inner script (depthFor (← Reader.left).length) .any
    if closed then
      let t ← next script false false
      if !isOperator ")" t then unexpectedFor t (.operator ")")
    return c

/-- The next line of a script as a command; nothing at the end of the script. -/
def line? : Reader (Option Command) := do
  modify fun s => { s with returned := none }
  let length := (← Reader.left).length
  list (nested length) (depthFor length) .line none

/-- A text as a word, as it would be between double quotes. -/
def quoted : Reader Word := do
  let length := (← Reader.left).length
  Words.parts (nested length) (4 * length + 4) .document

end BulkSuppress.Shell.Grammar
