import BulkSuppress.Shell.Source
import BulkSuppress.Shell.Words.Place
import BulkSuppress.Shell.Quotes

/-
  Reading words: quotes, escapes and expansions. What an expansion holds is read by the same
  functions in a place of its own, and a script inside a word by the reader for scripts, which is
  a parameter here. The functions take a bound on the depth of their calls, each of which stands
  for something that was read.
-/

namespace BulkSuppress.Shell.Words

/-- The word with more text in front. -/
def withText (cs : Octets) (quoted : Bool) : Word → Word
  | .text ds q :: rest => if q = quoted then .text (cs ++ ds) q :: rest
      else .text cs quoted :: .text ds q :: rest
  | rest => .text cs quoted :: rest

/-- The word with a part in front. -/
def withPart : Part → Word → Word
  | .text cs quoted, rest => withText cs quoted rest
  | p, rest => p :: rest

/-- The text up to a single quote. -/
def singleQuoted : Reader Octets := do
  let line := (← get).line
  let cs ← Reader.span (· ≠ '\'')
  match ← Reader.peek with
  | none => Reader.unclosed "Unterminated quoted string" '\'' line
  | some _ => Reader.skip 1; return cs

/-- The text with escapes up to a single quote. -/
def spelledQuoted : Reader Octets := do
  let cs ← Reader.left
  match spelledText (cs.length + 1) cs with
  | none => Reader.unclosed "" '\'' (← get).line
  | some (text, length) =>
    Reader.skip length
    return text.takeWhile (· ≠ '\x00')

/-- The text of a script between backquotes, where some escapes are for the backquotes. -/
def backquotedText (quoted : Bool) (cs : Octets) : Option (Octets × Nat) :=
  match cs with
  | [] => none
  | c :: rest =>
    if c = '\x60' then some ([], 1)
    else if c = '\\' then
      match rest with
      | [] => none
      | d :: rest =>
        let taken := if d = '\n' then []
          else if "$\\\x60".toList.contains d || (quoted && d = '"') then [d] else [c, d]
        (backquotedText quoted rest).map fun r => (taken ++ r.1, r.2 + 2)
    else (backquotedText quoted rest).map fun r => (c :: r.1, r.2 + 1)

/-- The characters behind the colon of an expansion, or without one. -/
def fallback? : Char → Option Fallback
  | '-' => some .use
  | '=' => some .assign
  | '?' => some .complain
  | '+' => some .replace
  | _ => none

/-- The name or number of a parameter, if one is next. -/
def parameterName : Reader Octets := do
  match ← Reader.peekJoined with
  | some c =>
    if startsName c then Reader.span isNameChar
    else if isDigit c then Reader.span isDigit
    else return []
  | none => return []

/-- The parameter that braces hold, and whether its length is asked for. -/
def bracedParameter : Reader (Option (String × Bool)) := do
  let name ← parameterName
  if !name.isEmpty then return some (String.ofList name, false)
  else
    match ← Reader.left with
    | '#' :: rest =>
      Reader.skip 1
      match rest with
      | c :: d :: _ =>
        if isNameChar c then return some (String.ofList (← parameterName), true)
        else if c ≠ '\x7d' && d = '\x7d' && isSpecial c then
          Reader.skip 1
          return some (String.singleton c, true)
        else return some ("#", false)
      | _ => return some ("#", false)
    | c :: _ =>
      if isSpecial c then
        Reader.skip 1
        return some (String.singleton c, false)
      else return none
    | [] => return none

/-- What a pattern is taken from: the sign, and whether it stands twice. -/
def trimming : Reader (Bool × Bool) := do
  let cs ← Reader.left
  let longest := cs.head? = cs.tail.head?
  Reader.skip (if longest then 2 else 1)
  return (cs.head? = some '%', longest)

/-- What of a pattern is replaced by another text, behind the slash. -/
def site : Reader Site := do
  match ← Reader.peek with
  | some '/' => Reader.skip 1; return .all
  | some '#' => Reader.skip 1; return .front
  | some '%' => Reader.skip 1; return .back
  | _ => return .first

/-- What becomes of letters, and whether it does so with all of them. -/
def casing (c : Char) : Reader (Casing × Bool) := do
  let isAll := (← Reader.left).tail.head? = some c
  Reader.skip (if isAll then 2 else 1)
  return (if c = '^' then .upper else if c = ',' then .lower else .swapped, isAll)

/-- What braces do with a parameter before it is named: nothing, or take its length or its name. -/
inductive Lead where
  | plain
  | length
  | behind
deriving DecidableEq, Repr

/-- What stands in front of the name of a parameter in braces. -/
def lead : Reader Lead := do
  match ← Reader.left with
  | '#' :: c :: d :: _ =>
    if isNameChar c || (isSpecial c && d = '\x7d') then
      Reader.skip 1
      return .length
    else return .plain
  | '!' :: c :: _ =>
    if isNameChar c || "#@*".toList.contains c then
      Reader.skip 1
      return .behind
    else return .plain
  | _ => return .plain

/-- The element of an array at a place, or all of them. -/
def holderAt (name : String) (index : Word) : Holder :=
  match index with
  | [.text ['@'] false] => .elements name true
  | [.text ['*'] false] => .elements name false
  | _ => .element name index

/-- Go on behind blanks, line ends and comments, as they can stand between the items of an array. -/
def skipBetween : Nat → Reader Unit
  | 0 => return
  | n + 1 => do
    match ← Reader.left with
    | ' ' :: _ | '\t' :: _ | '\n' :: _ => do Reader.skip 1; skipBetween n
    | '\\' :: '\n' :: _ => do Reader.skip 2; skipBetween n
    | '#' :: _ => do
      let _ ← Reader.span (· ≠ '\n')
      skipBetween n
    | _ => return

/-- Give up at an operator between the items of an array. -/
def unexpectedBetween {α : Type} (c : Char) (next : Option Char) : Reader α :=
  let token := if next = some c && "&|;".toList.contains c then [c, c] else [c]
  Reader.rejectLine ["syntax error near unexpected token \x60" ++ String.ofList token ++ "'"] true

section

variable (script : (closed : Bool) → Reader Command)

/-- A script up to the parenthesis that closes it. -/
def closedScript : Reader Command := do
  let s ← get
  set { s with awaited := [], returned := none }
  let c ← script true
  modify fun t => { t with awaited := s.awaited, returned := none }
  return c

/-- A script up to the parenthesis that closes it; the lack of one can be told for a line. -/
def scriptInside (line : Option Nat) : Reader Command := fun s =>
  match (closedScript script).run s with
  | .error p =>
    if p.texts = [endMissing] then
      .error { p with texts := [markMissing ')'], line := line.getD p.line }
    else .error p
  | r => r

/-- A script with a text and lines of its own. -/
def wholeScript (text : Octets) : Reader Command := do
  let s ← get
  set { s with rest := text, line := 1, awaited := [], returned := none, replacements := [] }
  let c ← script false
  modify fun t => { t with
    rest := s.rest, line := s.line, awaited := s.awaited, returned := none
    replacements := s.replacements }
  return c

/-- A script between backquotes; the first one has been read. -/
def backquoted (quoted : Bool) : Reader Command := do
  match backquotedText quoted (← Reader.left) with
  | none =>
    let line := (← get).line
    Reader.skip (← Reader.left).length
    Reader.unclosed "EOF in backquote substitution" '\x60' line
  | some (text, n) =>
    Reader.skip n
    wholeScript script text

mutual

/-- The parts up to the end of a place, which is not read. -/
def parts (depth : Nat) (place : Place) : Reader Word :=
  match depth with
  | 0 => Reader.exhausted
  | depth + 1 => do
    let s ← get
    let extended := s.dialect = .extended
    let groups := s.groups && place = .bare
    let text := ordinaryText place groups s.rest
    Reader.skip text.length
    if !text.isEmpty then return withText text place.isQuoted (← parts depth place)
    else
      match s.rest with
      | [] => return []
      | '\\' :: '\n' :: _ =>
        Reader.skip 2
        parts depth place
      | '\\' :: rest =>
        let cs := match rest with
          | c :: _ => if place.isQuoted && !isEscapable place c then ['\\', c] else [c]
          | [] => ['\\']
        Reader.skip (1 + (rest.take 1).length)
        return withText cs true (← parts depth place)
      | '\'' :: _ =>
        Reader.skip 1
        let cs ← singleQuoted
        return withText cs true (← parts depth place)
      | '"' :: _ => doubleQuote depth place
      | '$' :: c :: _ =>
        Reader.skip 1
        if extended && !place.isQuoted && c = '\'' then
          Reader.skip 1
          let cs ← spelledQuoted
          return withText cs true (← parts depth place)
        else if extended && !place.isQuoted && c = '"' then doubleQuote depth place
        else
          let p ← dollar depth place
          return withPart p (← parts depth place)
      | ['$'] =>
        Reader.skip 1
        return withText ['$'] place.isQuoted []
      | '\x60' :: _ =>
        Reader.skip 1
        let c ← backquoted script place.isQuoted
        return .output c place.isQuoted :: (← parts depth place)
      | c :: rest =>
        if groups && opensGroup c then
          let line := s.line
          Reader.skip 2
          let inside ← parts depth (.group 0)
          if (← Reader.peek).isNone then Reader.unclosed "" ')' line
          Reader.skip 1
          return withText [c, '('] false (inside ++ withText [')'] false (← parts depth place))
        else if extended && place = .bare && (c = '<' || c = '>') && rest.head? = some '(' then
          Reader.skip 2
          let inside ← closedScript script
          return .pipe (c = '<') inside :: (← parts depth place)
        else
          match place.behind? c rest.head? with
          | some after =>
            if extended && place = .sum 0 && c = ')' then return []
            else
              Reader.skip 1
              return withText [c] place.isQuoted (← parts depth after)
          | none => return []

/-- The parts from a double quote on. -/
def doubleQuote (depth : Nat) (place : Place) : Reader Word :=
  match depth with
  | 0 => Reader.exhausted
  | depth + 1 =>
    match place with
    | .quoted => return []
    | .quotedBraced inner => do
      Reader.skip 1
      parts depth (.quotedBraced !inner)
    | .sum n => do
      Reader.skip 1
      let rest ← parts depth (.sum n)
      return if ← Reader.isExtended then rest else withText ['"'] true rest
    | .slice isStart n => do
      Reader.skip 1
      parts depth (.slice isStart n)
    | _ => do
      let line := (← get).line
      Reader.skip 1
      let inside ← parts depth .quoted
      match ← Reader.peek with
      | none => Reader.unclosed "Unterminated quoted string" '"' line
      | some _ =>
        Reader.skip 1
        return withText [] true (inside ++ (← parts depth place))

/-- The part that a dollar sign starts. -/
def dollar (depth : Nat) (place : Place) : Reader Part :=
  match depth with
  | 0 => Reader.exhausted
  | depth + 1 => do
    let quoted := place.isQuoted
    let extended ← Reader.isExtended
    match ← Reader.peekJoined with
    | none => return .text ['$'] quoted
    | some c =>
      if c = '(' then
        Reader.skip 1
        let opened ← get
        if (← Reader.peekJoined) = some '(' then
          Reader.skip 1
          let body ← parts depth (.sum 0)
          match ← Reader.left with
          | ')' :: ')' :: _ =>
            Reader.skip 2
            return .sum body quoted
          | rest =>
            if !extended then Reader.reject "Missing '))'"
            else if rest.isEmpty then Reader.unclosed "" ')' opened.line
            else
              set opened
              return .output (← scriptInside script opened.line) quoted
        else return .output (← scriptInside script none) quoted
      else if extended && c = '[' then
        let line := (← get).line
        Reader.skip 1
        let body ← parts depth (.subscript 0)
        if (← Reader.peek).isNone then Reader.unclosed "" ']' line
        Reader.skip 1
        return .sum body quoted
      else if c = '\x7b' then
        Reader.skip 1
        if extended then extendedBraces depth place else braces depth place
      else if startsName c then
        return .parameter (.named (String.ofList (← Reader.span isNameChar))) .value quoted
      else if isSpecial c then
        Reader.skip 1
        return .parameter (.named (String.singleton c)) .value quoted
      else return .text ['$'] quoted

/-- The expansion in braces; the opening one has been read. -/
def braces (depth : Nat) (place : Place) : Reader Part :=
  match depth with
  | 0 => Reader.exhausted
  | depth + 1 => do
    let quoted := place.isQuoted
    let found ← bracedParameter
    let inside := if quoted then Place.quotedBraced false else .braced
    let use : Use ← match found, ← Reader.peekJoined with
      | none, _ => do let _ ← parts depth inside; pure (.unknown [])
      | some (_, true), some '\x7d' => pure .length
      | some (_, true), _ => do let _ ← parts depth inside; pure (.unknown [])
      | some (_, false), some '\x7d' => pure .value
      | some (_, false), some c => do
        if c = '%' || c = '#' then
          let (suffix, longest) ← trimming
          pure (.trimmed suffix longest (← parts depth .braced))
        else
          if c = ':' then Reader.skip 1
          match ← Reader.peekJoined with
          | none => Reader.reject "Missing '\x7d'"
          | some d =>
            modify fun s => { s with rest := s.rest.drop 1 }
            match fallback? d with
            | some how => pure (.withFallback (c ≠ ':') how (← parts depth inside))
            | none => do
              let _ ← parts depth inside
              pure (if d = '\x7d' then .value else .unknown [])
      | some (_, false), none => Reader.reject "Missing '\x7d'"
    match ← Reader.peek with
    | none => Reader.reject "Missing '\x7d'"
    | some _ =>
      Reader.skip 1
      return .parameter (.named ((found.map (·.1)).getD "")) use quoted

/-- The parameter that is next in braces, perhaps with the place of an element. -/
def holder (depth : Nat) : Reader (Option Holder) :=
  match depth with
  | 0 => Reader.exhausted
  | depth + 1 => do
    let name ← parameterName
    match name, ← Reader.peek with
    | [], some c =>
      if isSpecial c then
        Reader.skip 1
        return some (.named (String.singleton c))
      else return none
    | [], none => return none
    | _, some '[' =>
      if isName name then
        Reader.skip 1
        let index ← parts depth (.subscript 0)
        if (← Reader.peek) = some ']' then Reader.skip 1
        return some (holderAt (String.ofList name) index)
      else return some (.named (String.ofList name))
    | _, _ => return some (.named (String.ofList name))

/-- What is taken from a parameter in braces; nothing if that makes no sense. -/
def use? (depth : Nat) (inside : Place) : Reader (Option Use) :=
  match depth with
  | 0 => Reader.exhausted
  | depth + 1 => do
    match ← Reader.peekJoined with
    | none => return none
    | some '\x7d' => return some .value
    | some '/' =>
      Reader.skip 1
      let s ← site
      let slashed := s = .all && (← Reader.peek) = some '/'
      if slashed then Reader.skip 1
      let pattern ← parts depth (.upTo '/')
      let pattern := if slashed then withText ['/'] false pattern else pattern
      let replaces := (← Reader.peek) = some '/'
      if replaces then Reader.skip 1
      let word ← if replaces then parts depth .braced else pure []
      return some (.replaced s pattern word)
    | some c =>
      if c = '%' || c = '#' then
        let (suffix, longest) ← trimming
        return some (.trimmed suffix longest (← parts depth .braced))
      else if c = '^' || c = ',' || c = '~' then
        let (how, isAll) ← casing c
        return some (.cased how isAll (← parts depth .braced))
      else if c = '@' then
        match ← Reader.left with
        | _ :: letter :: '\x7d' :: _ =>
          Reader.skip 2
          return some (.formed letter)
        | _ =>
          Reader.skip 1
          return some (.formed '\x00')
      else
        let isColon := c = ':'
        let next := (← Reader.left).tail.head?
        let second := if isColon then next else some c
        match second.bind fallback? with
        | some how =>
          Reader.skip (if isColon then 2 else 1)
          return some (.withFallback (!isColon) how (← parts depth inside))
        | none =>
          if !isColon || second = some '\x7d' then return none
          else
            Reader.skip 1
            let start ← parts depth (.slice true 0)
            if (← Reader.peek) = some ':' then
              Reader.skip 1
              return some (.sliced start (some (← parts depth (.slice false 0))))
            else return some (.sliced start none)

/-- The expansion in braces in the extended dialect; the opening one has been read. -/
def extendedBraces (depth : Nat) (place : Place) : Reader Part :=
  match depth with
  | 0 => Reader.exhausted
  | depth + 1 => do
    let before ← get
    let quoted := place.isQuoted
    let inside := if quoted then Place.quotedBraced false else .braced
    let front ← lead
    let found ← holder depth
    let rest ← Reader.left
    let (found, use) : Option Holder × Option Use ← match front, found, rest with
      | .length, some h, '\x7d' :: _ => pure (some h, some .length)
      | .length, h, _ => pure (h, none)
      | .behind, some (.elements name each), '\x7d' :: _ =>
        pure (some (.elements name each), some .places)
      | .behind, some (.named name), c :: '\x7d' :: _ => do
        if (c = '@' || c = '*') && isName name.toList then
          Reader.skip 1
          pure (some (.named name), some (.names (c = '@')))
        else
          pure (some (.behind (.named name)), ← use? depth inside)
      | .behind, some h, _ => do pure (some (.behind h), ← use? depth inside)
      | .plain, some h, _ => do pure (some h, ← use? depth inside)
      | _, none, _ => pure (none, none)
    let fits := (← Reader.peek) = some '\x7d' && use.isSome && found.isSome
    if !fits then let _ ← parts depth inside
    match ← Reader.peek with
    | none => Reader.unclosed "" '\x7d' before.line
    | some _ =>
      Reader.skip 1
      let length := before.rest.length - (← Reader.left).length
      let spelled := before.rest.take length
      let unknown : Use := .unknown ("$\x7b".toList ++ spelled)
      return .parameter (found.getD (.named ""))
        (match fits, use with
          | true, some u => u
          | _, _ => unknown) quoted

/-- The assignment that is next, if it is one. -/
def assignmentNext? (depth : Nat) : Reader (Option Assignment) :=
  match depth with
  | 0 => Reader.exhausted
  | depth + 1 => do
    let before ← get
    let name ← Reader.span isNameChar
    if !isName name then
      set before
      return none
    else
      let index ← if (← Reader.peek) = some '[' then do
          Reader.skip 1
          let index ← parts depth (.subscript 0)
          Reader.skip 1
          pure (some index)
        else pure none
      assignmentBehind depth before (String.ofList name) index

/-- The assignment behind its name and its place, if there is one. -/
def assignmentBehind (depth : Nat) (before : Source) (name : String) (index : Option Word) :
    Reader (Option Assignment) :=
  match depth with
  | 0 => Reader.exhausted
  | depth + 1 => do
    let signs ← Reader.left
    let length := if signs.head? = some '=' then 1
      else if "+=".toList.isPrefixOf signs then 2
      else 0
    if length = 0 then
      set before
      return none
    else
      Reader.skip length
      let value ← if index.isNone && (← Reader.peek) = some '(' then do
          let line := (← get).line
          Reader.skip 1
          let xs ← items depth line
          pure [.items xs]
        else parts depth .bare
      return some (.mk name index (length = 2) value)

/-- The items of an array up to the parenthesis behind them. -/
def items (depth : Nat) (line : Nat) : Reader (List Assignment) :=
  match depth with
  | 0 => Reader.exhausted
  | depth + 1 => do
    skipBetween (← Reader.left).length
    match ← Reader.left with
    | [] => Reader.unclosed "" ')' line 1
    | ')' :: _ =>
      Reader.skip 1
      return []
    | c :: rest =>
      if isMeta c && !((c = '<' || c = '>') && rest.head? = some '(') then
        unexpectedBetween c rest.head?
      else
        let before ← get
        let placed ← if c = '[' then do
            Reader.skip 1
            let index ← parts depth (.subscript 0)
            Reader.skip 1
            assignmentBehind depth before "" (some index)
          else pure none
        match placed with
        | some item => return item :: (← items depth line)
        | none =>
          let w ← parts depth .bare
          return .mk "" none false w :: (← items depth line)

end

/-- A bound on the depth of calls that reading what is left takes. -/
def depth : Reader Nat := do return 4 * (← Reader.left).length + 8

/-- The word that is next. -/
def word : Reader Word := do parts script (← depth) .bare

/-- The regular expression that is next. -/
def expression : Reader Word := do parts script (← depth) (.regex 0)

/-- The calculation that is next, up to two parentheses. -/
def sum : Reader Word := do parts script (← depth) (.sum 0)

/-- The text that is next, up to a sign. -/
def upTo (stop : Char) : Reader Word := do parts script (← depth) (.upTo stop)

/-- The assignment that is next, if it is one. -/
def assignment? : Reader (Option Assignment) := do assignmentNext? script (← depth)

/-- The text of the mark of a here-document, and whether it is quoted. -/
def documentMark : Reader (Octets × Bool) := do
  let w ← parts script (← depth) .mark
  return ((plainText? w).getD [], (bareText? w).isNone)

/-! ## Here-documents -/

/-- The text of a here-document at the front, and the number of characters up to its end. -/
def documentText (a : Awaited) (cs : Octets) : Octets × Nat :=
  match cs with
  | [] => ([], 0)
  | c :: rest =>
    let line := (c :: rest).takeWhile (· ≠ '\n')
    let shown := if a.untabbed then line.dropWhile (· = '\t') else line
    let length := line.length + (((c :: rest).drop line.length).take 1).length
    if shown = a.mark then ([], length)
    else
      let ending := ((c :: rest).drop line.length).take 1
      let r := documentText a (rest.drop (length - 1))
      (shown ++ ending ++ r.1, length + r.2)
termination_by cs.length
decreasing_by simp only [List.length_drop, List.length_cons]; omega

/-- The mark of a here-document comes in a text. -/
def hasMark (a : Awaited) (cs : Octets) : Bool :=
  (Text.pieces '\n' cs).any fun line =>
    (if a.untabbed then line.dropWhile (· = '\t') else line) = a.mark

/-- Warn of a here-document without its mark that starts in a text and ends with it. -/
def warnOfEnd (a : Awaited) : Reader Unit :=
  modify fun s =>
    let start := if s.rest.isEmpty && s.endsOpen then s.line else s.line - 1
    let ended := s.line + s.rest.count '\n' - (if s.endsOpen then 0 else 1)
    let text := "warning: here-document at line " ++ toString start ++
      " delimited by end-of-file (wanted \x60" ++ String.ofList a.mark ++ "')"
    { s with warnings := s.warnings ++ [(ended, text)] }

/-- Read the text of a here-document. -/
def document (a : Awaited) : Reader Unit := do
  if !hasMark a (← Reader.left) then warnOfEnd a
  let s ← get
  let (text, length) := documentText a s.rest
  let w ← if a.verbatim then pure [Part.text text true]
    else do
      set { s with rest := text, awaited := [], returned := none }
      parts script (4 * text.length + 4) .document
  modify fun t => { t with rest := s.rest, line := s.line, returned := s.returned }
  Reader.skip length
  modify fun t => { t with documents := (a.number, w) :: t.documents }

/-- Read the here-documents that are awaited, at the end of their line. -/
def awaitedDocuments : Reader Unit := do
  let awaited := (← get).awaited
  modify fun s => { s with awaited := [] }
  awaited.forM (document script)

end

end BulkSuppress.Shell.Words
