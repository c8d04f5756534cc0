import BulkSuppress.Yaml.Token.Block
import BulkSuppress.Yaml.Token.Property

/-
  From a YAML text to its tokens. Indentation opens and closes blocks; a scalar on one line
  becomes a key when a colon follows it, in which case a key token, and perhaps the start of a
  mapping, are put in front of it afterwards. Each step reads something, so that the text comes to
  an end.
-/

namespace BulkSuppress.Yaml.Lexer

/-- A place where a key may have started, of which the colon is still to come. -/
structure Candidate where
  /-- Nothing but a key may stand there. -/
  required : Bool
  /-- The number of tokens in front of it. -/
  number : Nat
  mark : Mark
deriving Repr

/-- What is known when the cursor has reached some place. -/
structure State where
  cursor : Cursor
  /-- The column of the innermost block, -1 outside all blocks. -/
  indent : Int := -1
  /-- The columns of the blocks around it. -/
  outer : List Int := []
  /-- The candidate of the innermost collection, and those of the flow collections around it. -/
  candidates : List (Option Candidate) := [none]
  /-- A key may start here. -/
  keyAllowed : Bool := true
  /-- The tokens so far, last first. -/
  lexemes : List Lexeme := []

/-- The longest key, in bytes. -/
def keyLimit : Nat := 1024

namespace State

variable (s : State)

/-- The cursor stands inside a flow collection. -/
def inFlow : Bool := 1 < s.candidates.length

/-- The place reached. -/
def mark : Mark := s.cursor.mark

/-- The state with one more token, which stops at the cursor `c`. -/
def push (token : Token) (c : Cursor) : State :=
  { s with lexemes := ⟨token, s.mark, c.mark⟩ :: s.lexemes, cursor := c }

/-- The state with a token of `n` characters. -/
def pushMark (token : Token) (n : Nat := 1) : State :=
  s.push token (s.cursor.advance n)

/-- The state with a token without characters at `m`, behind the first `number` tokens. -/
def insert (token : Token) (m : Mark) (number : Nat) : State :=
  { s with lexemes := s.lexemes.insertIdx (s.lexemes.length - number) ⟨token, m, m⟩ }

/-- The candidate of the innermost collection. -/
def candidate : Option Candidate := s.candidates.head?.join

/-- The state with another candidate of the innermost collection. -/
def withCandidate (k : Option Candidate) : State :=
  { s with candidates := k :: s.candidates.drop 1 }

/-- The state without the candidate; a required key must not be given up. -/
def dropCandidate : Option State :=
  if s.candidate.any (·.required) then none else some (s.withCandidate none)

/-- The state with a candidate here, if a key may start here. -/
def noteCandidate : Option State :=
  if s.keyAllowed then do
    let t ← s.dropCandidate
    return t.withCandidate (some
      { required := !s.inFlow && s.indent = s.mark.column
        number := s.lexemes.length
        mark := s.mark })
  else some s

/-- A key has to end on its line, and soon. -/
def isStale (m : Mark) (k : Candidate) : Bool :=
  k.mark.line < m.line || k.mark.index + keyLimit < m.index

/-- The state without candidates that are stale; a required key must not be among them. -/
def dropStale : Option State :=
  let stale := fun k : Option Candidate => k.any (isStale s.mark)
  if s.candidates.any fun k => stale k && k.any (·.required) then none
  else some { s with candidates := s.candidates.map fun k => if stale k then none else k }

/-- The state with a new block at `column`, if that is further in than the innermost one. -/
def openBlock (token : Token) (column : Nat) (m : Mark) (number : Nat) : State :=
  if s.inFlow || (column : Int) ≤ s.indent then s
  else { s.insert token m number with indent := column, outer := s.indent :: s.outer }

/-- The state without the blocks further in than `column`. -/
def closeBlocks (column : Int) : State :=
  if s.inFlow then s
  else
    let all := s.indent :: s.outer
    let closed := (all.takeWhile (column < ·)).length
    let ends := List.replicate closed (⟨.blockEnd, s.mark, s.mark⟩ : Lexeme)
    match all.drop closed with
    | indent :: outer => { s with indent, outer, lexemes := ends ++ s.lexemes }
    | [] => s

/-- The cursor behind a byte order mark that starts a line; the mark takes up a column. -/
def behindOrderMark (c : Cursor) : Cursor :=
  if c.column = 0 && c.sees '\uFEFF' then c.advance else c

theorem size_behindOrderMark (c : Cursor) : (behindOrderMark c).size ≤ c.size := by
  unfold behindOrderMark
  split
  · rw [Cursor.size_advance]; exact Nat.sub_le _ _
  · exact Nat.le_refl _

/--
The cursor at the end of the line or the next token on it: blanks and a comment are passed. A tab
is a blank only where no block can start.
-/
def restOfLine (tabIsBlank : Bool) (c : Cursor) : Cursor :=
  let c1 := (behindOrderMark c).skip fun ch => ch = ' ' || (ch = '\t' && tabIsBlank)
  if c1.sees '#' then c1.skip (!isBreak ·) else c1

theorem size_restOfLine (tabIsBlank : Bool) (c : Cursor) :
    (restOfLine tabIsBlank c).size ≤ c.size := by
  refine Nat.le_trans ?_ (size_behindOrderMark c)
  simp only [restOfLine]
  split
  · exact Nat.le_trans (Cursor.size_span _ _) (Cursor.size_span _ _)
  · exact Cursor.size_span _ _

/-- The cursor at the next token, and whether a key may start there. -/
def gap (inFlow : Bool) (keyAllowed : Bool) (c : Cursor) : Bool × Cursor :=
  match h : (restOfLine (inFlow || !keyAllowed) c).takeBreak? with
  | none => (keyAllowed, restOfLine (inFlow || !keyAllowed) c)
  | some (_, next) =>
    have : next.size < c.size :=
      Nat.lt_of_lt_of_le (Cursor.size_takeBreak? h) (size_restOfLine _ c)
    gap inFlow (keyAllowed || !inFlow) next
termination_by c.size

/-- The state at the next token. -/
def skipGap : State :=
  let (keyAllowed, cursor) := gap s.inFlow s.keyAllowed s.cursor
  { s with keyAllowed, cursor }

/-! ## Tokens -/

/-- The state outside all blocks, before a directive or a document mark. -/
def leaveBlocks : Option State := do
  let t ← (s.closeBlocks (-1)).dropCandidate
  return { t with keyAllowed := false }

/-- The start of a flow collection. -/
def startFlow (token : Token) : Option State := do
  let t ← s.noteCandidate
  return { t.pushMark token with candidates := none :: t.candidates, keyAllowed := true }

/-- The end of a flow collection. -/
def endFlow (token : Token) : Option State := do
  let t ← s.dropCandidate
  let candidates := if t.inFlow then t.candidates.drop 1 else t.candidates
  return { t.pushMark token with candidates, keyAllowed := false }

/-- A comma in a flow collection. -/
def flowEntry : Option State := do
  let t ← s.dropCandidate
  return { t.pushMark .flowEntry with keyAllowed := true }

/-- The state in a block at the cursor, where a block of the kind may start. -/
def enterBlock (token : Token) : Option State :=
  if s.inFlow then some s
  else if s.keyAllowed then some (s.openBlock token s.mark.column s.mark s.lexemes.length)
  else none

/-- The dash of an entry. -/
def blockEntry : Option State := do
  let t ← (← s.enterBlock .blockSequenceStart).dropCandidate
  return { t.pushMark .blockEntry with keyAllowed := true }

/-- The question mark of a key. -/
def explicitKey : Option State := do
  let t ← (← s.enterBlock .blockMappingStart).dropCandidate
  return { t.pushMark .key with keyAllowed := !s.inFlow }

/-- The colon of a value. What stands at the candidate becomes its key. -/
def value : Option State :=
  match s.candidate with
  | some k =>
    let t := (s.insert .key k.mark k.number).openBlock .blockMappingStart k.mark.column k.mark
      k.number
    some { (t.withCandidate none).pushMark .value with keyAllowed := false }
  | none => do
    let t ← s.enterBlock .blockMappingStart
    return { t.pushMark .value with keyAllowed := !s.inFlow }

/-- A token that can be a key or stand in front of one. -/
def keyLike (read : Cursor → Option (Token × Cursor)) : Option State := do
  let t ← s.noteCandidate
  let (token, c) ← read t.cursor
  return { t.push token c with keyAllowed := false }

/-- A quoted scalar. -/
def quoted (single : Bool) : Option State :=
  s.keyLike fun c => (Flow.quoted single c.advance).map fun r =>
    (.scalar (String.ofList r.1) (if single then .singleQuoted else .doubleQuoted), r.2)

/-- A plain scalar. When a line has ended behind it, a key may follow. -/
def plain : Option State := do
  let t ← s.noteCandidate
  let (text, broken, c) ← Flow.plain t.inFlow (t.indent + 1).toNat {} t.cursor
  return { t.push (.scalar (String.ofList text) .plain) c with keyAllowed := broken }

/-- A block scalar. -/
def block (folded : Bool) : Option State := do
  let t ← s.dropCandidate
  let (text, c) ← Block.scan folded t.indent t.cursor.advance
  let token := Token.scalar (String.ofList text) (if folded then .folded else .literal)
  return { t.push token c with keyAllowed := true }

/-- A directive. -/
def directive : Option State := do
  let t ← s.leaveBlocks
  let (token, stop, c) ← Property.directive t.cursor
  return { t with lexemes := ⟨token, t.mark, stop⟩ :: t.lexemes, cursor := c }

/-- A character that cannot start a plain scalar, unless what follows allows it. -/
def isIndicator (c : Char) : Bool :=
  "-?:,[]\x7b\x7d#&*!|>'\"%@".toList.contains c || c = '\x60'

/-- A plain scalar may start at the cursor. -/
def startsPlain (inFlow : Bool) (c : Cursor) : Bool :=
  !c.seesOrEnd (fun ch => isGap ch || isIndicator ch) ||
  (c.sees '-' && !(c.peek? 1).any isSpacing) ||
  (!inFlow && (c.sees '?' || c.sees ':') && !c.seesOrEnd isGap 1)

/-- The state behind the token at the cursor. -/
def token : Option State :=
  let c := s.cursor
  let mark (ch : Char) : Bool := c.sees ch && (s.inFlow || c.seesOrEnd isGap 1)
  if c.column = 0 && c.sees '%' then s.directive
  else if c.atRule '-' then (s.leaveBlocks).map (·.pushMark .documentStart 3)
  else if c.atRule '.' then (s.leaveBlocks).map (·.pushMark .documentEnd 3)
  else if c.sees '[' then s.startFlow .flowSequenceStart
  else if c.sees '\x7b' then s.startFlow .flowMappingStart
  else if c.sees ']' then s.endFlow .flowSequenceEnd
  else if c.sees '\x7d' then s.endFlow .flowMappingEnd
  else if c.sees ',' then s.flowEntry
  else if c.sees '-' && c.seesOrEnd isGap 1 then s.blockEntry
  else if mark '?' then s.explicitKey
  else if mark ':' then s.value
  else if c.sees '*' then
    s.keyLike fun c => (Property.anchorName c).map fun r => (.alias r.1, r.2)
  else if c.sees '&' then
    s.keyLike fun c => (Property.anchorName c).map fun r => (.anchor r.1, r.2)
  else if c.sees '!' then s.keyLike (Property.tag s.inFlow)
  else if c.sees '|' && !s.inFlow then s.block false
  else if c.sees '>' && !s.inFlow then s.block true
  else if c.sees '\'' then s.quoted true
  else if c.sees '"' then s.quoted false
  else if startsPlain s.inFlow c then s.plain
  else none

/-- The mark at the end of the text, which ends the last line. -/
def endMark : Mark :=
  if s.mark.column = 0 then s.mark else { s.mark with line := s.mark.line + 1, column := 0 }

/-- The tokens of the text, when the cursor has reached its end. -/
def finish : Option (List Lexeme) := do
  let s := { s with cursor := { s.cursor with mark := s.endMark } }
  let t ← s.leaveBlocks
  return (t.pushMark .finish 0).lexemes.reverse

/-- The tokens of the text from the cursor on, behind those so far. -/
def lexemes? (s : State) : Option (List Lexeme) :=
  match s.skipGap.dropStale with
  | none => none
  | some t =>
    let t := t.closeBlocks t.mark.column
    if t.cursor.rest.isEmpty then t.finish
    else match t.token with
      | none => none
      | some next => if next.cursor.size < s.cursor.size then lexemes? next else none
termination_by s.cursor.size

end State

/-- The tokens of a text, if every part of it is one. -/
def scan (text : String) : Option (List Lexeme) :=
  let cs := text.toList
  if cs.all isAllowed then State.lexemes? { cursor := ⟨cs, {}⟩ } else none

end BulkSuppress.Yaml.Lexer
