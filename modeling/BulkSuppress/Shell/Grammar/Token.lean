import BulkSuppress.Shell.Words

/-
  The tokens of a script: words, operators, redirections and the words that have a meaning of their
  own. Words that are to be replaced by other texts are so where a command can start.
-/

namespace BulkSuppress.Shell.Grammar

/-- The words that have a meaning of their own where a command can start. -/
def keywords : List String :=
  ["!", "case", "do", "done", "elif", "else", "esac", "fi", "for", "if", "in", "then", "until",
    "while", "\x7b", "\x7d"]

/-- The words that have a meaning of their own in a dialect. -/
def keywordsOf : Dialect → List String
  | .common => keywords
  | .extended => keywords ++ ["[[", "function", "select", "time"]

/-- The operators, longer ones first. -/
def operatorsOf : Dialect → List String
  | .common => [";;", "&&", "||", ";", "&", "|", "(", ")", "\n"]
  | .extended => [";;&", ";&", ";;", "&&", "||", "|&", ";", "&", "|", "(", ")", "\n"]

/-- The signs of redirections, longer ones first. -/
def signsOf : Dialect → List String
  | .common => ["<<-", "<<", "<&", "<>", "<", ">>", ">&", ">|", ">"]
  | .extended => ["<<<", "<<-", "<<", "<&", "<>", "<", ">>", ">&", ">|", ">", "&>>", "&>"]

/-- The first of the texts that stands at the front. -/
def startsWithOneOf (texts : List String) (cs : Octets) : Option String :=
  texts.find? fun t => t.toList.isPrefixOf cs

/-- A token as messages name it. -/
def shown : Token → String
  | .word _ | .assignment _ => "word"
  | .keyword text => "\"" ++ text ++ "\""
  | .operator "\n" => "newline"
  | .operator text => "\"" ++ text ++ "\""
  | .redirection _ => "redirection"
  | .finish => "end of file"

/-- Give up at a token, in the words of the extended dialect. -/
def unexpectedNear {α : Type} (t : Token) : Reader α := do
  let last := (← get).last
  let near (text : String) : Reader α :=
    Reader.rejectLine ["syntax error near unexpected token \x60" ++ text ++ "'"]
  match t with
  | .finish => Reader.exhausted
  | .operator "\n" =>
    modify fun s => { s with rest := '\n' :: s.rest, line := s.line - 1 }
    near "newline"
  | .operator text | .keyword text => near text
  | .redirection _ => near ((startsWithOneOf (signsOf .extended) (last.dropWhile isDigit)).getD "")
  | _ => near (String.ofList last)

/-- Give up at a token. -/
def unexpected {α : Type} (t : Token) : Reader α := do
  if ← Reader.isExtended then unexpectedNear t else Reader.reject (shown t ++ " unexpected")

/-- Give up at a token in place of another one. -/
def unexpectedFor {α : Type} (t expected : Token) : Reader α := do
  if ← Reader.isExtended then unexpectedNear t
  else Reader.reject (shown t ++ " unexpected (expecting " ++ shown expected ++ ")")

/-- Go on behind blanks, escaped line ends and a comment. -/
def skipBlanks : Nat → Reader Unit
  | 0 => return
  | n + 1 => do
    match ← Reader.left with
    | ' ' :: _ | '\t' :: _ => do Reader.skip 1; skipBlanks n
    | '\\' :: '\n' :: _ => do Reader.skip 2; skipBlanks n
    | '#' :: _ => do let _ ← Reader.span (· ≠ '\n')
    | _ => return

/-- The words for the target of a redirection of each kind of sign. -/
def openingOf : String → Opening
  | "<" => .read
  | ">>" => .append
  | "<>" => .both
  | "<&" | ">&" => .duplicate
  | ">|" => .overwrite
  | _ => .write

section

variable (script : (closed : Bool) → Reader Command)

/-- What a redirection with a sign and a target does. -/
def redirectionsOf (descriptor : Option Nat) (sign : String) (target : Word) : List Redirection :=
  let default := if sign.startsWith "<" then 0 else 1
  match sign with
  | "&>" => [.mk 1 .write target, .mk 2 .duplicate [.text ['1'] false]]
  | "&>>" => [.mk 1 .append target, .mk 2 .duplicate [.text ['1'] false]]
  | "<<<" => [.mk (descriptor.getD 0) .text target]
  | _ => [.mk (descriptor.getD default) (openingOf sign) target]

/-- The redirection whose sign is next. -/
def redirection (descriptor : Option Nat) (sign : String) : Reader Token := do
  Reader.skip sign.length
  skipBlanks (← Reader.left).length
  let s ← get
  let dialect := s.dialect
  let isWord := "<(".toList.isPrefixOf s.rest || ">(".toList.isPrefixOf s.rest
  match startsWithOneOf (signsOf dialect ++ operatorsOf dialect) s.rest with
  | some op =>
    if dialect = .extended then
      if isWord then return .redirection (redirectionsOf descriptor sign (← Words.word script))
      else
        Reader.skip op.length
        unexpected (.operator op)
    else
      if op = "\n" then modify fun s => { s with line := s.line + 1 }
      unexpected (if (signsOf dialect).contains op then .redirection [] else .operator op)
  | none =>
    if s.rest.isEmpty then
      unexpected (if dialect = .extended then .operator "\n" else .finish)
    else if sign = "<<" || sign = "<<-" then
      let (mark, quoted) ← Words.documentMark script
      let number := (← get).serial
      let awaited : Awaited := ⟨number, mark, quoted, sign = "<<-"⟩
      modify fun s => { s with serial := number + 1, awaited := s.awaited ++ [awaited] }
      return .redirection [.mk (descriptor.getD 0) (.document number) []]
    else
      let target ← Words.word script
      if dialect = .common && openingOf sign = .duplicate then
        match plainText? target with
        | some cs => if cs ≠ ['-'] && !(cs.length = 1 && cs.all isDigit) then
            Reader.reject "Bad fd number"
        | none => pure ()
      return .redirection (redirectionsOf descriptor sign target)

/-- The number of a descriptor at the front of a text, if a redirection follows. -/
def descriptorAt? (dialect : Dialect) (cs : Octets) : Option (Nat × Nat) :=
  let digits := cs.takeWhile isDigit
  let fits := match (cs.drop digits.length).head? with
    | some c => c = '<' || c = '>'
    | none => false
  if !digits.isEmpty && fits && (dialect = .extended || digits.length = 1) then
    some (numberIn 10 digits, digits.length)
  else none

/-- The token that is next in the text. -/
def lexeme : Reader Token := do
  skipBlanks (← Reader.left).length
  let s ← get
  let extended := s.dialect = .extended
  let assigned ← if extended && s.assigns then Words.assignment? script else pure none
  let t ← match assigned with
    | some a => pure (Token.assignment a)
    | none =>
      let (descriptor, cs) := match descriptorAt? s.dialect s.rest with
        | some (n, length) => (some n, s.rest.drop length)
        | none => (none, s.rest)
      let isPipe := "<(".toList.isPrefixOf cs || ">(".toList.isPrefixOf cs
      match if extended && isPipe && descriptor.isNone then none
        else startsWithOneOf (signsOf s.dialect) cs with
      | some sign =>
        Reader.skip (s.rest.length - cs.length)
        redirection script descriptor sign
      | none =>
        if cs.isEmpty then pure .finish
        else match if isPipe then none else startsWithOneOf (operatorsOf s.dialect) cs with
          | some op =>
            Reader.skip op.length
            pure (.operator op)
          | none => pure (.word (← Words.word script))
  modify fun after => { after with last := s.rest.take (s.rest.length - after.rest.length) }
  return t

/-- The token that is next, or was returned. -/
def token : Reader Token := do
  match (← get).returned with
  | some t =>
    modify fun s => { s with returned := none }
    return t
  | none => lexeme script

/-- The token behind line ends. -/
def tokenBehindLines : Nat → Reader Token
  | 0 => token script
  | n + 1 => do
    match ← token script with
    | .operator "\n" =>
      Words.awaitedDocuments script
      tokenBehindLines n
    | t => return t

/-- A word as the keyword that it is, if it is one. -/
def asKeyword (dialect : Dialect) : Token → Token
  | .word w =>
    match bareText? w with
    | some cs =>
      let text := String.ofList cs
      if (keywordsOf dialect).contains text then .keyword text else .word w
    | none => .word w
  | t => t

/-- Leave the replacements behind; the answer tells whether the word behind one can be replaced. -/
def leaveReplacements : Reader Bool := do
  let s ← get
  let left := s.replacements.takeWhile fun r => s.rest.length < r.behind
  set { s with replacements := s.replacements.drop left.length }
  return left.any (·.goesOn)

/-- The text that stands in place of a token. -/
def replacement? (t : Token) : Reader (Option (String × Octets)) := do
  let s ← get
  let word := match t with
    | .word w => (bareText? w).map String.ofList
    | _ => none
  return word.bind fun name =>
    if s.replacements.any (·.word = name) then none
    else (s.aliases.lookup name).map fun text => (name, text)

/--
The token that is next, behind line ends if they may stand there. Keywords are known where they
may stand; words are replaced where a command can start, and behind a replacement that goes on.
-/
def nextOf (behindLines keyword replaces assigns : Bool) : Nat → Reader Token
  | 0 => token script
  | n + 1 => do
    modify fun s => { s with assigns }
    let t ← if behindLines then tokenBehindLines script ((← Reader.left).length + 1)
      else token script
    let goesOn ← leaveReplacements
    let dialect := (← get).dialect
    let t := if keyword then asKeyword dialect t else t
    if !(replaces || goesOn) then return t
    else
      match ← replacement? t with
      | none => return t
      | some (word, text) =>
        modify fun s => { s with
          rest := text ++ s.rest
          replacements := ⟨word, s.rest.length, text.getLast?.any fun c => c = ' ' || c = '\t'⟩ ::
            s.replacements }
        nextOf behindLines keyword replaces assigns n

/-- The number of replacements in place of one word. -/
def replacementLimit : Nat := 1000

/-- The token that is next, which is a word that can be replaced where a keyword can stand. -/
def next (behindLines keyword : Bool) (assigns : Bool := false) : Reader Token :=
  nextOf script behindLines keyword keyword assigns replacementLimit

/-- Return a token that is still to be used. -/
def giveBack (t : Token) : Reader Unit := modify fun s => { s with returned := some t }

/-- The token is an operator. -/
def isOperator (text : String) : Token → Bool
  | .operator op => op = text
  | _ => false

/-- The token is a keyword. -/
def isKeyword (text : String) : Token → Bool
  | .keyword word => word = text
  | _ => false

/-- The token that has to be a keyword. -/
def demand (text : String) (t : Token) : Reader Unit :=
  if isKeyword text t then return else unexpectedFor t (.keyword text)

end

end BulkSuppress.Shell.Grammar
