import BulkSuppress.Shell.Utility.Sed.Script

/-
  Reading scripts that edit lines. A script comes in pieces, from expressions and files. A text
  that a piece leaves open goes on in the next one, and so do blocks.
-/

namespace BulkSuppress.Shell.Utility.Sed

/-! ## Reading -/

/-- How scripts are read. -/
structure Manner where
  dialect : Regex.Dialect
  /-- Commands that reach other files or programs are refused. -/
  confined : Bool := false
  /-- What lines end in. -/
  mark : Char := '\n'

/-- What is left of a piece, and the number of octets that were read. -/
structure Source where
  rest : Octets
  position : Nat := 0

/-- Why a script makes no sense. -/
inductive Fault where
  /-- At a place in a piece. -/
  | at' (position : Nat) (why : String)
  /-- At the end of a line of a piece, where a block was opened that is never closed. -/
  | unclosed (position : Nat)
  /-- Nowhere in particular. -/
  | general (why : Octets)

/-- Reading that ends where something does not fit. -/
abbrev Reader := StateT Source (Except Fault)

/-- Give up. -/
def reject {α : Type} (why : String) : Reader α := fun s => .error (.at' s.position why)

/-- Go on behind some octets. -/
def skip (n : Nat) : Reader Unit :=
  modify fun s => { rest := s.rest.drop n, position := s.position + n }

/-- The octets that are left. -/
def left : Reader Octets := do return (← get).rest

/-- The octet that is next. -/
def next? : Reader (Option Char) := do return (← left).head?

/-- Go on behind the octets of a class, which are given back. -/
def span (p : Char → Bool) : Reader Octets := do
  let cs := (← left).takeWhile p
  skip cs.length
  return cs

/-- Go on behind blanks. -/
def blanks : Reader Unit := do let _ ← span fun c => c = ' ' || c = '\t'

/-- The number that digits spell; without digits it is zero. -/
def numeral : Reader Nat := do return numberIn 10 (← span isDigit)

/-- Read up to a delimiter. -/
def upTo (delimiter : Char) (isRegex : Bool) (why : String) : Reader Octets := do
  let cut := cutAt delimiter isRegex .outside (← left)
  skip cut.length
  if cut.closed then return cut.text else reject why

/-- A result, unless there is a reason why there is none. -/
def accepted {α : Type} : Except String α → Reader α
  | .ok x => return x
  | .error why => reject why

/-- The complaint about a class without its outer brackets, which names no place. -/
def bareClass : String := "character class syntax is [[:space:]], not [:space:]"

/-- What octets ask to look for. Modifiers need a regular expression of their own. -/
def sought (m : Manner) (cs : Octets) (foldsCase byLine : Bool) : Reader Sought := do
  let cs ← accepted (withEscapes cs)
  if cs.isEmpty then
    if foldsCase || byLine then reject "cannot specify modifiers on empty regexp"
    return { regex := none }
  else
    match Regex.parse m.dialect cs with
    | .ok r => return { regex := some r, foldsCase, byLine := byLine && m.mark = '\n' }
    | .error why =>
      if why = bareClass then throw (.general why.toList)
      reject why

/-! ## Addresses -/

/-- The modifiers behind the regular expression of an address. -/
def addressModifiers (foldsCase byLine : Bool) : Nat → Reader (Bool × Bool)
  | 0 => return (foldsCase, byLine)
  | n + 1 => do
    blanks
    match ← next? with
    | some 'I' =>
      skip 1
      addressModifiers true byLine n
    | some 'M' =>
      skip 1
      addressModifiers foldsCase true n
    | _ => return (foldsCase, byLine)

/-- An address by a regular expression, behind its delimiter. -/
def matchingAddress (m : Manner) (delimiter : Char) : Reader Address := do
  let cs ← upTo delimiter true "unterminated address regex"
  let (foldsCase, byLine) ← addressModifiers false false ((← left).length + 1)
  return .matching (← sought m cs foldsCase byLine)

/-- An address, if one is next. -/
def address (m : Manner) : Reader (Option Address) := do
  match ← left with
  | '$' :: _ =>
    skip 1
    return some .last
  | '/' :: _ =>
    skip 1
    return some (← matchingAddress m '/')
  | '\\' :: rest =>
    skip 1
    match rest with
    | [] => reject "unterminated address regex"
    | delimiter :: _ =>
      skip 1
      return some (← matchingAddress m delimiter)
  | c :: _ =>
    if isDigit c then
      let n ← numeral
      blanks
      if (← next?) = some '~' then
        skip 1
        blanks
        let step ← numeral
        return some (if step = 0 then .line n else .every n step)
      else return some (.line n)
    else return none
  | [] => return none

/-- The end of a range, behind the comma. -/
def rangeEnd (m : Manner) : Reader RangeEnd := do
  blanks
  match ← next? with
  | some '+' =>
    skip 1
    blanks
    return .further (← numeral)
  | some '~' =>
    skip 1
    blanks
    return .multiple (← numeral)
  | c =>
    match ← address m with
    | some a => return .at' a
    | none =>
      if c.isSome then skip 1
      reject "unexpected \x60,'"

/-- A range from line zero needs an end that is looked for. -/
def startsAtZero (first : Option Address) (last : Option RangeEnd) : Bool :=
  match first, last with
  | some (.line 0), some (.at' (.matching _)) => false
  | some (.line 0), _ => true
  | _, _ => false

/-- Which lines a command is for: the first address, the end of the range, and whether it is not. -/
def addresses (m : Manner) : Reader (Option Address × Option RangeEnd × Bool) := do
  match ← next? with
  | some '+' | some '~' =>
    skip 1
    blanks
    let _ ← numeral
    reject "invalid usage of +N or ~N as first address"
  | _ => pure ()
  let first ← address m
  if first.isSome then blanks
  let last ← if first.isSome && (← next?) = some ',' then do
      skip 1
      let last ← rangeEnd m
      blanks
      pure (some last)
    else pure none
  if startsAtZero first last then
    skip (min 1 (← left).length)
    reject "invalid usage of line address 0"
  let negated := (← next?) = some '!'
  if negated then
    skip 1
    blanks
    if (← next?) = some '!' then
      skip 1
      reject "multiple \x60!'s"
  return (first, last, negated)

/-! ## Texts -/

/-- A text that a command takes, as it is written. -/
structure Taken where
  text : Octets
  /-- It goes on in the next piece, if there is one. -/
  isOpen : Bool

/-- The rest of a line and the lines behind it whose ends are escaped. -/
def takenLines (mark : Char) : Octets → Taken × Nat
  | [] => (⟨[mark], false⟩, 0)
  | ['\\'] => (⟨['\n'], true⟩, 1)
  | '\\' :: c :: rest =>
    let (t, n) := takenLines mark rest
    ({ t with text := '\\' :: c :: t.text }, n + 2)
  | '\n' :: _ => (⟨[mark], false⟩, 1)
  | c :: rest =>
    let (t, n) := takenLines mark rest
    ({ t with text := c :: t.text }, n + 1)

/-- The text of a command that takes lines, behind some that other pieces give. -/
def taken (mark : Char) (before : Octets) : Reader Taken := do
  let (t, n) := takenLines mark (← left)
  skip n
  return { t with text := before ++ t.text }

/-- The text of a command that takes lines: the rest of its line, or the lines behind it. -/
def takenText (mark : Char) : Reader Taken := do
  blanks
  match ← left with
  | [] => reject "expected \\ after \x60a', \x60c' or \x60i'"
  | ['\\'] =>
    skip 1
    return ⟨[], true⟩
  | '\\' :: '\n' :: _ =>
    skip 2
    taken mark []
  | '\\' :: _ =>
    skip 1
    taken mark []
  | '\n' :: _ =>
    skip 1
    return ⟨[], false⟩
  | _ => taken mark []

/-- The text as it is written out. Escapes stay in one that is left open. -/
def Taken.written (t : Taken) : Except String Octets :=
  if t.isOpen then withEscapes t.text else unescaped t.text

/-- The label behind a command. -/
def labelText : Reader Octets := do
  blanks
  span fun c => !(c = ' ' || ('\t' ≤ c && c ≤ '\r') || c = ';' || c = '\x7d')

/-- Commands that reach other files or programs are refused if that is asked for. -/
def unconfined (m : Manner) : Reader Unit :=
  if m.confined then reject "e/r/w commands disabled in sandbox mode" else return

/-- The name of a file, which takes the rest of the line. -/
def fileName (m : Manner) : Reader Octets := do
  unconfined m
  blanks
  let cs ← span (· ≠ '\n')
  if cs.isEmpty then reject "missing filename in r/R/w/W commands"
  skip (min 1 (← left).length)
  return cs

/-! ## Commands -/

/-- The flags of a substitution. -/
structure Flags where
  /-- The number of the first match that is replaced. -/
  nth : Option Nat := none
  all : Bool := false
  print : Bool := false
  printsFirst : Bool := false
  executes : Bool := false
  foldsCase : Bool := false
  byLine : Bool := false
  /-- The file that takes lines with replacements. -/
  file : Option Octets := none

/-- An octet that can stand around commands. -/
def isFiller (c : Char) : Bool := c = ' ' || ('\t' ≤ c && c ≤ '\r') || c = ';'

/-- The flags of a substitution, behind some of them. -/
def substitutionFlags (m : Manner) (f : Flags) : Nat → Reader Flags
  | 0 => return f
  | n + 1 => do
    match ← next? with
    | some 'g' =>
      skip 1
      if f.all then reject "multiple \x60g' options to \x60s' command"
      substitutionFlags m { f with all := true } n
    | some 'p' =>
      skip 1
      if f.print then reject "multiple \x60p' options to \x60s' command"
      substitutionFlags m { f with print := true, printsFirst := !f.executes } n
    | some 'e' =>
      skip 1
      substitutionFlags m { f with executes := true } n
    | some 'i' | some 'I' =>
      skip 1
      substitutionFlags m { f with foldsCase := true } n
    | some 'm' | some 'M' =>
      skip 1
      substitutionFlags m { f with byLine := true } n
    | some 'w' =>
      skip 1
      return { f with file := some (← fileName m) }
    | some ' ' | some '\t' =>
      skip 1
      substitutionFlags m f n
    | some '\n' | some ';' =>
      skip 1
      return f
    | some '\x7d' | some '#' | none => return f
    | some c =>
      if isDigit c then
        let number ← numeral
        if f.nth.isSome then reject "multiple number options to \x60s' command"
        if number = 0 then reject "number option to \x60s' command may not be zero"
        substitutionFlags m { f with nth := some number } n
      else
        skip 1
        reject "unknown option to \x60s'"

/-- A substitution, behind its letter. -/
def substitution (m : Manner) : Reader Substitution := do
  let unterminated := "unterminated \x60s' command"
  match ← next? with
  | none => reject unterminated
  | some delimiter =>
    skip 1
    let pattern ← upTo delimiter true unterminated
    let by' ← upTo delimiter false unterminated
    let parts ← accepted (replacement by')
    let f ← substitutionFlags m {} ((← left).length + 1)
    let s ← sought m pattern f.foldsCase f.byLine
    if s.regex.any fun r => r.groupCount < highest parts then
      reject ("invalid reference \\" ++ toString (highest parts) ++ " on \x60s' command's RHS")
    if f.executes then unconfined m
    return { sought := s, parts, nth := f.nth.getD 1, all := f.all, executes := f.executes,
             prints := f.print && !(f.printsFirst && f.executes),
             printsFirst := f.printsFirst && f.executes, file := f.file }

/-- The octets that take the place of others, behind the letter of the command. -/
def translation : Reader (List (Char × Char)) := do
  let unterminated := "unterminated \x60y' command"
  match ← next? with
  | none => reject unterminated
  | some delimiter =>
    skip 1
    let source ← accepted (unescaped (← upTo delimiter false unterminated))
    let target ← accepted (unescaped (← upTo delimiter false unterminated))
    if source.length ≠ target.length then reject "strings for \x60y' command are different lengths"
    return (source.zip target).reverse

/-- The version of this editor. -/
def editorVersion : List Nat := [4, 9]

/-- A version is newer than the one of this editor. -/
def isNewer (cs : Octets) : Bool :=
  match (Text.pieces '.' cs).mapM decimal? with
  | some ns => editorVersion < ns
  | none => cs.head?.any ('4' < ·)

/-- Nothing but another command may follow on the line. -/
def endOfCommand : Reader Unit := do
  blanks
  match ← next? with
  | none | some '\x7d' | some '#' => return
  | some c =>
    skip 1
    if c ≠ '\n' && c ≠ ';' then reject "extra characters after command"

/-- A command as it is read: what it does, and whether its text goes on in the next piece. -/
structure Command where
  work : Work
  isOpen : Option Octets := none

/-- A command that takes a text. -/
def textCommand (m : Manner) (use : TextUse) : Reader Command := do
  let t ← takenText (if use = .insert || use = .change then m.mark else '\n')
  return { work := .put use (← accepted t.written), isOpen := if t.isOpen then some t.text else none }

/-- A command without arguments. -/
def bare (w : Work) : Reader Command := do
  endOfCommand
  return { work := w }

/-- A command that takes a number. -/
def counted (w : Option Nat → Work) : Reader Command := do
  blanks
  let digits ← span isDigit
  bare (w (if digits.isEmpty then none else some (numberIn 10 digits)))

/-- The command of a letter. The length of a block is found later. -/
def command (m : Manner) (c : Char) : Reader Command := do
  match c with
  | 's' => return { work := .substitute (← substitution m) }
  | 'y' => bare (.translate (← translation))
  | 'p' => bare .print
  | 'P' => bare .printFirst
  | 'd' => bare .delete
  | 'D' => bare .deleteFirst
  | 'n' => bare .next
  | 'N' => bare .nextAppended
  | 'q' | 'Q' => counted fun n => .quit (n.getD 0) (c = 'q')
  | 'l' => counted .spell
  | '=' => bare .number
  | 'F' => bare .fileName
  | 'z' => bare .clear
  | 'h' => bare .holdCopy
  | 'H' => bare .holdAppend
  | 'g' => bare .takeCopy
  | 'G' => bare .takeAppend
  | 'x' => bare .exchange
  | 'a' => textCommand m .append
  | 'i' => textCommand m .insert
  | 'c' => textCommand m .change
  | 'e' =>
    unconfined m
    blanks
    match ← next? with
    | none => return { work := .put .execute [] }
    | some '\n' =>
      skip 1
      return { work := .put .execute [] }
    | some _ => textCommand m .execute
  | 'r' => return { work := .appendFile (← fileName m) }
  | 'R' => return { work := .appendLine (← fileName m) }
  | 'w' | 'W' => return { work := .writeTo (← fileName m) (c = 'W') }
  | ':' =>
    let name ← labelText
    if name.isEmpty then reject "\":\" lacks a label"
    return { work := .label name }
  | 'b' => return { work := .branch (← labelText) }
  | 't' => return { work := .branchIfChanged (← labelText) }
  | 'T' => return { work := .branchUnlessChanged (← labelText) }
  | 'v' =>
    if isNewer (← labelText) then reject "expected newer version of sed"
    return { work := .nothing }
  | '#' =>
    let _ ← span (· ≠ '\n')
    return { work := .nothing }
  | '\x7b' => return { work := .block 0 }
  | '\x7d' => bare .nothing
  | c => reject ("unknown command: \x60" ++ String.singleton c ++ "'")

/-- Why a letter does not go with addresses, or with blocks, of which so many are open. -/
def misplaced? (letter : Char) (opened : Nat) (hasFirst hasLast : Bool) : Option String :=
  match letter with
  | '\x7d' =>
    if opened = 0 then some "unexpected \x60\x7d'"
    else if hasFirst then some "\x60\x7d' doesn't want any addresses" else none
  | ':' => if hasFirst then some ": doesn't want any addresses" else none
  | '#' => if hasFirst then some "comments don't accept any addresses" else none
  | 'q' | 'Q' => if hasLast then some "command only uses one address" else none
  | _ => none

/-! ## Pieces -/

/-- Where a piece of a script comes from. -/
inductive Origin where
  | expression (number : Nat)
  | file (name : Octets)

/-- A piece of a script. -/
structure Piece where
  origin : Origin
  text : Octets

/-- What has been read of a script. -/
structure Progress where
  /-- The commands with their letters, last first. -/
  found : List (Step × Char) := []
  /-- The pieces and places where blocks were opened that are still open, innermost first. -/
  opened : List (Piece × Nat) := []
  /-- The text of the last command, if it can go on. -/
  text : Option Octets := none

/-- A command, from its addresses on, behind what has been read. -/
def step (m : Manner) (piece : Piece) (p : Progress) : Reader Progress := do
  let (first, last, negated) ← addresses m
  match ← next? with
  | none => reject "missing command"
  | some letter =>
    skip 1
    match misplaced? letter p.opened.length first.isSome last.isSome with
    | some why => reject why
    | none => pure ()
    let c ← command m letter
    let position := (← get).position
    let opened := if letter = '\x7b' then (piece, position) :: p.opened
      else if letter = '\x7d' then p.opened.drop 1 else p.opened
    return { found := ({ first, last, negated, work := c.work }, letter) :: p.found, opened
             text := c.isOpen }

/-- All commands of a piece, behind what has been read. -/
def steps (m : Manner) (piece : Piece) (p : Progress) : Nat → Reader Progress
  | 0 => return p
  | n + 1 => do
    let _ ← span isFiller
    if (← left).isEmpty then return p
    else steps m piece (← step m piece p) n

/-- The progress with another text for the last command. -/
def Progress.withText (p : Progress) (t : Taken) (written : Octets) : Progress :=
  match p.found with
  | (s, letter) :: rest =>
    let work := match s.work with
      | .put use _ => Work.put use written
      | w => w
    { p with found := ({ s with work }, letter) :: rest
             text := if t.isOpen then some t.text else none }
  | [] => p

/-- A piece, behind what has been read. -/
def pieceOf (m : Manner) (p : Progress) (piece : Piece) : Reader Progress := do
  match p.text with
  | none => steps m piece p (piece.text.length + 1)
  | some before =>
    let t ← taken '\n' before
    let p := p.withText t (← accepted t.written)
    steps m piece p (piece.text.length + 1)

/-- A fault in a piece as it is told, and how the editor ends. -/
def Piece.told (p : Piece) : Fault → Octets × Nat
  | .general why => (why, 4)
  | .unclosed position => (place true position ++ "unmatched \x60\x7b'".toList, 1)
  | .at' position why => (place false position ++ why.toList, 1)
where
  /-- A place in the piece as messages name it. -/
  place (isPast : Bool) (position : Nat) : Octets :=
    match p.origin with
    | .expression number =>
      ("-e expression #" ++ toString number ++ ", char " ++
        toString (if isPast then 0 else position) ++ ": ").toList
    | .file name =>
      "file ".toList ++ name ++
        (" line " ++ toString (((p.text.take position).count '\n') + 1) ++ ": ").toList

/-- The pieces of a script, behind what has been read. -/
def readPieces (m : Manner) (p : Progress) : List Piece → Except (Octets × Nat) Progress
  | [] => .ok p
  | piece :: rest =>
    match (pieceOf m p piece).run { rest := piece.text } with
    | .ok (p, _) => readPieces m p rest
    | .error fault => .error (piece.told fault)

/-- The number of commands up to the end of a block. -/
def blockLength : Nat → List (Step × Char) → Nat
  | _, [] => 0
  | depth, (_, letter) :: rest =>
    if letter = '\x7b' then 1 + blockLength (depth + 1) rest
    else if letter = '\x7d' then (match depth with
      | 0 => 1
      | depth + 1 => 1 + blockLength depth rest)
    else 1 + blockLength depth rest

/-- The commands with the lengths of their blocks. -/
def withLengths : List (Step × Char) → List Step
  | [] => []
  | (s, letter) :: rest =>
    (if letter = '\x7b' then { s with work := .block (blockLength 0 rest) } else s) ::
      withLengths rest

/-- The commands of a script, or why it makes no sense, with how the editor ends. -/
def parse (m : Manner) (pieces : List Piece) : Except (Octets × Nat) (List Step) := do
  let p ← readPieces m {} pieces
  match p.opened with
  | (piece, position) :: _ => throw (piece.told (.unclosed position))
  | [] =>
    let script := withLengths p.found.reverse
    match (script.filterMap Step.target?).find? fun name => !script.any (·.isLabel name) with
    | some name => throw ("can't find label for jump to \x60".toList ++ name ++ ['\''], 4)
    | none => return script

/-- The script asks at its very front that lines are not written by themselves. -/
def isQuiet (pieces : List Piece) : Bool :=
  match pieces with
  | { text := '#' :: 'n' :: _, .. } :: _ => true
  | _ => false

end BulkSuppress.Shell.Utility.Sed
