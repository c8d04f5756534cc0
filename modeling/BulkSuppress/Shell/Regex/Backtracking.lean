import BulkSuppress.Shell.Regex.Reader

/-
  Regular expressions whose alternatives are tried in order: the first way to match counts, not the
  longest one. Repetitions can be greedy, lazy or give nothing back, and what stands around a place
  can be looked at without being part of the match.
-/

namespace BulkSuppress.Shell.Backtracking

/-! ## Patterns -/

/-- How much a repetition takes. -/
inductive Greed where
  | greedy
  | lazy
  /-- Nothing is given back. -/
  | possessive
deriving DecidableEq, Repr

/-- A place that a pattern asks for. -/
inductive Place where
  | start
  /-- Also in front of a line end that is the last octet. -/
  | finish
  | veryEnd
  /-- Behind a line end too. -/
  | lineStart
  | lineEnd
  | word
  | noWord
deriving DecidableEq, Repr

/-- A pattern. -/
inductive Pattern where
  | empty
  | set (negated : Bool) (members : List Member)
  | place (p : Place)
  | seq (a b : Pattern)
  | alt (a b : Pattern)
  | times (a : Pattern) (least : Nat) (most : Option Nat) (greed : Greed)
  | group (number : Nat) (a : Pattern)
  /-- What a group holds; the case of letters may not count. -/
  | same (number : Nat) (folds : Bool)
  /-- What follows, or what stands in front, matches or does not. -/
  | look (ahead negated : Bool) (a : Pattern)
  | atomic (a : Pattern)
  /-- The match starts here. -/
  | keep
  /-- One of two patterns, as a group holds something or not. -/
  | ifHeld (number : Nat) (a b : Pattern)
  /-- One of two patterns, as another one matches here or not. -/
  | ifMatch (condition a b : Pattern)
deriving Inhabited, Repr

namespace Pattern

/-- An octet; the case of a letter may not count. -/
def octet (folds : Bool) (c : Char) : Pattern :=
  .set false (if folds && isLetter c then [.range c.toLower c.toLower, .range c.toUpper c.toUpper]
    else [.range c c])

/-- The number of octets that a pattern matches, if there is only one. -/
def length? : Pattern → Option Nat
  | .empty | .place _ | .look .. | .keep => some 0
  | .set .. => some 1
  | .seq a b => do return (← a.length?) + (← b.length?)
  | .alt a b | .ifHeld _ a b | .ifMatch _ a b => do
    let n ← a.length?
    let k ← b.length?
    if n = k then some n else none
  | .times a least most _ => if most = some least then a.length?.map (· * least) else none
  | .group _ a | .atomic a => a.length?
  | .same .. => none

/-- Each of the outermost alternatives matches one number of octets. -/
def isBounded : Pattern → Bool
  | .alt a b => a.isBounded && b.isBounded
  | a => a.length?.isSome

end Pattern

/-! ## Matching -/

/-- How far matching has come. -/
structure Progress where
  place : Nat
  /-- Where the match starts, if that was moved. -/
  start : Option Nat := none
  groups : List (Nat × Nat × Nat) := []

section

variable (text : Array Char)

/-- A word octet stands at a place. -/
def isWordAt (i : Nat) : Bool := text[i]?.any Regex.isWordChar

/-- The place is one of a kind. -/
def isPlace (i : Nat) : Place → Bool
  | .start => i = 0
  | .finish => i = text.size || (i + 1 = text.size && text[i]? = some '\n')
  | .veryEnd => i = text.size
  | .lineStart => i = 0 || text[i - 1]? = some '\n'
  | .lineEnd => i = text.size || text[i]? = some '\n'
  | .word => (0 < i && isWordAt text (i - 1)) != isWordAt text i
  | .noWord => (0 < i && isWordAt text (i - 1)) == isWordAt text i

/-- Go on where a pattern matches; the first way to do so that leads to an end counts. -/
def follow : Nat → Pattern → Progress → (Progress → Option Progress) → Option Progress
  | 0, _, _, _ => none
  | n + 1, p, at', go =>
    match p with
    | .empty => go at'
    | .set negated members =>
      match text[at'.place]? with
      | some c =>
        if members.any (·.has c) != negated then go { at' with place := at'.place + 1 } else none
      | none => none
    | .place kind => if isPlace text at'.place kind then go at' else none
    | .seq a b => follow n a at' fun next => follow n b next go
    | .alt a b => (follow n a at' go).orElse fun _ => follow n b at' go
    | .times a least most greed =>
      let once (_ : Unit) : Option Progress :=
        if most = some 0 then none
        else follow n a at' fun next =>
          if next.place = at'.place && least = 0 then none
          else follow n (.times a (least - 1) (most.map (· - 1)) greed) next go
      if 0 < least then once ()
      else match greed with
        | .greedy => (once ()).orElse fun _ => go at'
        | .lazy => (go at').orElse once
        | .possessive => (follow n (.times a 0 most .greedy) at' some).bind go
    | .group number a =>
      follow n a at' fun next =>
        go { next with groups := (number, at'.place, next.place) :: next.groups }
    | .same number folds =>
      match at'.groups.lookup number with
      | none => none
      | some (first, behind) =>
        let fold (cs : List Char) : List Char := if folds then cs.map Char.toLower else cs
        let held := (text.extract first behind).toList
        let here := (text.extract at'.place (at'.place + held.length)).toList
        if fold held = fold here then go { at' with place := at'.place + held.length } else none
    | .look true negated a =>
      match follow n a at' some, negated with
      | some found, false => go { found with place := at'.place, start := at'.start }
      | none, true => go at'
      | _, _ => none
    | .look false negated a =>
      let ends (next : Progress) : Option Progress :=
        if next.place = at'.place then some next else none
      let found := (List.range (at'.place + 1)).reverse.findSome? fun i =>
        follow n a { at' with place := i } ends
      match found, negated with
      | some found, false => go { found with start := at'.start }
      | none, true => go at'
      | _, _ => none
    | .atomic a => (follow n a at' some).bind go
    | .keep => go { at' with start := some at'.place }
    | .ifHeld number a b =>
      follow n (if (at'.groups.lookup number).isSome then a else b) at' go
    | .ifMatch condition a b =>
      follow n (if (follow n condition at' some).isSome then a else b) at' go

/-- The number of steps that are made at most. -/
def stepLimit : Nat := 100000

/-- The match that starts at a place: where it starts and ends. -/
def matchAt (p : Pattern) (i : Nat) (accept : Progress → Bool) : Option (Nat × Nat) :=
  (follow text stepLimit p { place := i } fun found => if accept found then some found else none).map
    fun found => (found.start.getD i, found.place)

/-- The first match from a place on that is accepted. -/
def find? (p : Pattern) (start : Nat) (accept : Nat → Progress → Bool) : Option (Nat × Nat) :=
  ((List.range (text.size + 1 - start)).map (· + start)).findSome? fun i =>
    matchAt text p i (accept i)

end

/-! ## Reading -/

/-- What letters between a question mark and a colon switch. -/
structure Modes where
  folds : Bool := false
  lines : Bool := false
  /-- A dot matches a line end too. -/
  dotAll : Bool := false
  /-- Blanks in the pattern do not count. -/
  spaced : Bool := false

/-- Reading, with what is left and what has been found so far. -/
structure Source where
  rest : Octets
  modes : Modes := {}
  groups : Nat := 0
  names : List (Octets × Nat) := []
  /-- The highest number of a group that is asked for. -/
  asked : Nat := 0

/-- Reading that ends where something does not fit. -/
abbrev Reader := StateT Source (Except String)

/-- The octets that end lines. -/
def verticalMembers : List Member := [.range '\n' '\r', .range '\x85' '\x85']

/-- The octets that are blanks within lines. -/
def horizontalMembers : List Member := [.range ' ' ' ', .range '\t' '\t', .range '\u00a0' '\u00a0']

/-- The class that a letter behind a backslash stands for, and whether it is turned round. -/
def classOf? (c : Char) : Option (Bool × List Member) :=
  match c with
  | 'd' => some (false, [.named "digit".toList])
  | 'D' => some (true, [.named "digit".toList])
  | 'w' => some (false, Regex.wordMembers)
  | 'W' => some (true, Regex.wordMembers)
  | 's' => some (false, [.named "space".toList])
  | 'S' => some (true, [.named "space".toList])
  | 'h' => some (false, horizontalMembers)
  | 'H' => some (true, horizontalMembers)
  | 'v' => some (false, verticalMembers)
  | 'V' => some (true, verticalMembers)
  | 'N' => some (true, [.range '\n' '\n'])
  | _ => none

/-- The classes of properties. -/
def propertyMembers (name : Octets) : Option (List Member) :=
  match String.ofList name with
  | "L" | "L&" => some [.named "alpha".toList]
  | "Lu" => some [.named "upper".toList]
  | "Ll" => some [.named "lower".toList]
  | "N" | "Nd" => some [.named "digit".toList]
  | "P" => some [.range '!' '#', .range '%' '*', .range ',' '/', .range ':' ';', .range '?' '@',
      .range '[' ']', .range '_' '_', .range '\x7b' '\x7b', .range '\x7d' '\x7d']
  | "S" => some [.range '$' '$', .range '+' '+', .range '<' '>', .range '^' '^',
      .range '\x60' '\x60', .range '|' '|', .range '~' '~']
  | "Z" | "Zs" => some [.range ' ' ' ', .range '\u00a0' '\u00a0']
  | "Any" => some [.range '\x00' '\u00ff']
  | "Xan" => some [.named "alnum".toList]
  | "Xwd" => some Regex.wordMembers
  | "Xsp" | "Xps" => some [.named "space".toList]
  | _ => none

/-- Go on behind some octets. -/
def skip (n : Nat) : Reader Unit := modify fun s => { s with rest := s.rest.drop n }

/-- The name up to a sign; it is passed too. -/
def nameUntil (sign : Char) : Reader Octets := do
  let name := (← get).rest.takeWhile (· ≠ sign)
  skip (name.length + 1)
  return name

/-- The octet that a backslash and what follows stand for, if they stand for one. -/
def escapedOctet : Reader (Option Char) := do
  let cs := (← get).rest
  match cs with
  | 'x' :: '\x7b' :: more =>
    let digits := more.takeWhile fun c => (digitIn? 16 c).isSome
    skip (digits.length + 3)
    return some (Char.ofNat (numberIn 16 digits % 256))
  | 'x' :: more =>
    let digits := (more.take 2).takeWhile fun c => (digitIn? 16 c).isSome
    skip (digits.length + 1)
    return some (Char.ofNat (numberIn 16 digits))
  | '0' :: more =>
    let digits := (more.take 2).takeWhile fun c => (digitIn? 8 c).isSome
    skip (digits.length + 1)
    return some (Char.ofNat (numberIn 8 digits))
  | 'c' :: c :: _ =>
    skip 2
    return some (Char.ofNat (c.toUpper.toNat ^^^ 64))
  | c :: _ =>
    let letters : List (Char × Char) :=
      [('n', '\n'), ('t', '\t'), ('r', '\r'), ('f', '\x0c'), ('e', '\x1b'), ('a', '\x07')]
    match letters.lookup c with
    | some d =>
      skip 1
      return some d
    | none =>
      if isLetter c || isDigit c then return none
      else
        skip 1
        return some c
  | [] => throw "\\ at end of pattern"

/-- All octets but those that are members. -/
def otherMembers (members : List Member) : List Member :=
  (List.range 256).map Char.ofNat |>.filter (fun c => !members.any (·.has c)) |>.map fun c =>
    .range c c

/-- Members with both cases of their letters, if the case does not count. -/
def foldedMembers (folds : Bool) (members : List Member) : List Member :=
  if !folds then members
  else members ++ ((List.range 128).map Char.ofNat |>.filter (fun c => isLetter c &&
    members.any fun m => m.has c.toLower || m.has c.toUpper) |>.map fun c => .range c c)

/-- The class between brackets and colons at the front, if there is one. -/
def bracketClass? (cs : Octets) : Option (Except String (List Member) × Nat) :=
  match cs with
  | '[' :: ':' :: rest =>
    let negated := rest.head? = some '^'
    let body := if negated then rest.drop 1 else rest
    let name := body.takeWhile isLetter
    if (body.drop name.length).take 2 = [':', ']'] then
      let length := name.length + (if negated then 5 else 4)
      let members : Option (List Member) :=
        if name = "word".toList then some Regex.wordMembers
        else if Regex.classNames.contains (String.ofList name) then some [.named name]
        else none
      some ((members.elim (.error "unknown POSIX class name") fun ms =>
        .ok (if negated then otherMembers ms else ms)), length)
    else none
  | _ => none

/-- What stands in a set: one octet, or several ones. -/
def setItem : Reader (Char ⊕ List Member) := do
  let cs := (← get).rest
  match bracketClass? cs with
  | some (.ok members, n) =>
    skip n
    return .inr members
  | some (.error why, _) => throw why
  | none =>
    match cs with
    | '\\' :: c :: _ =>
      skip 1
      match classOf? c with
      | some (negated, members) =>
        skip 1
        return .inr (if negated then otherMembers members else members)
      | none =>
        if c = 'b' then
          skip 1
          return .inl '\x08'
        else
          let octal := (cs.drop 1).takeWhile fun d => (digitIn? 8 d).isSome
          if isDigit c && !octal.isEmpty then
            let digits := octal.take 3
            skip digits.length
            return .inl (Char.ofNat (numberIn 8 digits % 256))
          else
            match ← escapedOctet with
            | some d => return .inl d
            | none =>
              if isLetter c then throw "unrecognized character follows \\"
              skip 1
              return .inl c
    | c :: _ =>
      skip 1
      return .inl c
    | [] => throw "missing terminating ] for character class"

/-- A member with the end of its range, if it has one, and the members behind it. -/
def ranged (behind : Reader (List Member)) (item : Char ⊕ List Member) :
    Reader (List Member) := do
  match item, (← get).rest with
  | .inl low, '-' :: c :: _ =>
    if c = ']' then return .range low low :: (← behind)
    else
      skip 1
      match ← setItem with
      | .inl high =>
        if high < low then throw "range out of order in character class"
        return .range low high :: (← behind)
      | .inr members => return [.range low low, .range '-' '-'] ++ members ++ (← behind)
  | .inl c, _ => return .range c c :: (← behind)
  | .inr members, _ => return members ++ (← behind)

/-- The members of a set up to its end. -/
def setMembers : Nat → Bool → Reader (List Member)
  | 0, _ => throw "missing terminating ] for character class"
  | n + 1, isFirst => do
    match (← get).rest with
    | [] => throw "missing terminating ] for character class"
    | ']' :: _ =>
      skip 1
      if isFirst then ranged (setMembers n false) (.inl ']') else return []
    | _ => ranged (setMembers n false) (← setItem)

/-- The bounds between braces at the front, and how many octets they take. -/
def bounds? (cs : Octets) : Option (Nat × Option Nat × Nat) :=
  match cs with
  | '\x7b' :: rest =>
    let low := rest.takeWhile isDigit
    if low.isEmpty then none
    else
      match rest.drop low.length with
      | '\x7d' :: _ => some (numberIn 10 low, some (numberIn 10 low), low.length + 2)
      | ',' :: more =>
        let high := more.takeWhile isDigit
        if (more.drop high.length).head? = some '\x7d' then
          some (numberIn 10 low, if high.isEmpty then none else some (numberIn 10 high),
            low.length + high.length + 3)
        else none
      | _ => none
  | _ => none

/-- The modes with what letters switch, up to a sign that ends them. -/
def switched (on : Bool) (m : Modes) : Octets → Except String (Modes × Octets)
  | [] => .error "missing closing parenthesis"
  | c :: cs =>
    match c with
    | ':' | ')' => .ok (m, c :: cs)
    | '-' => switched false m cs
    | '^' => switched on {} cs
    | 'i' => switched on { m with folds := on } cs
    | 'm' => switched on { m with lines := on } cs
    | 's' => switched on { m with dotAll := on } cs
    | 'x' => switched on { m with spaced := on } cs
    | 'U' | 'J' | 'n' => switched on m cs
    | _ => .error "unrecognized character after (? or (?-"

/-- A new group; it may have a name. -/
def newGroup (name : Option Octets) : Reader Nat := do
  let s ← get
  let number := s.groups + 1
  set { s with
    groups := number, names := (name.map fun n => (n, number)).toList ++ s.names }
  return number

/-- The number of the group of a name. -/
def named (name : Octets) : Reader Nat := do
  match (← get).names.lookup name with
  | some n => return n
  | none => throw "reference to non-existent subpattern"

/-- A group with a number is asked for. -/
def asks (number : Nat) : Reader Pattern := do
  modify fun s => { s with asked := max s.asked number }
  return .same number (← get).modes.folds

/-- The text up to the letter that ends a quotation, with its octets as they are. -/
def quotation (cs : Octets) : Octets × Nat :=
  let indices := (List.range (cs.length + 1)).find? fun i => (cs.drop i).take 2 = ['\\', 'E']
  match indices with
  | some i => (cs.take i, i + 2)
  | none => (cs, cs.length)

/-- What a backslash and what follows stand for; the backslash has been passed. -/
def escaped : Reader Pattern := do
  let s ← get
  match s.rest with
  | [] => throw "\\ at end of pattern"
  | c :: rest =>
    let digits := (c :: rest).takeWhile isDigit
    if c ≠ '0' && !digits.isEmpty then
      let n := numberIn 10 digits
      skip digits.length
      asks n
    else
      match classOf? c with
      | some (negated, members) =>
        skip 1
        return .set negated members
      | none =>
        let place (p : Place) : Reader Pattern := do
          skip 1
          return .place p
        match c with
        | 'A' | 'G' => place .start
        | 'Z' => place .finish
        | 'z' => place .veryEnd
        | 'b' => place .word
        | 'B' => place .noWord
        | 'K' =>
          skip 1
          return .keep
        | 'R' =>
          skip 1
          return .alt (.seq (.octet false '\r') (.octet false '\n')) (.set false verticalMembers)
        | 'X' | 'C' =>
          skip 1
          return .set true []
        | 'E' =>
          skip 1
          return .empty
        | 'Q' =>
          let (cs, n) := quotation rest
          skip (n + 1)
          return cs.foldr (fun c p => .seq (.octet s.modes.folds c) p) .empty
        | 'p' | 'P' =>
          let (name, n) := match rest with
            | '\x7b' :: more =>
              let name := more.takeWhile (· ≠ '\x7d')
              (name, name.length + 3)
            | d :: _ => ([d], 2)
            | [] => ([], 1)
          let negated := name.head? = some '^'
          match propertyMembers (if negated then name.drop 1 else name) with
          | some members =>
            skip n
            return .set ((c = 'P') != negated) members
          | none => throw "unknown property after \\P or \\p"
        | 'k' =>
          let closing : Option Char := match rest.head? with
            | some '<' => some '>'
            | some '\'' => some '\''
            | some '\x7b' => some '\x7d'
            | _ => none
          match closing with
          | some sign =>
            skip 2
            asks (← named (← nameUntil sign))
          | none => throw "\\k is not followed by a braced, angle-bracketed, or quoted name"
        | 'g' =>
          let braced := rest.head? = some '\x7b'
          let body := if braced then (rest.drop 1).takeWhile (· ≠ '\x7d')
            else rest.takeWhile fun d => isDigit d || d = '-'
          skip (1 + body.length + (if braced then 2 else 0))
          match body with
          | '-' :: ds => asks (s.groups + 1 - numberIn 10 ds)
          | ds =>
            if ds.all isDigit && !ds.isEmpty then asks (numberIn 10 ds)
            else asks (← named ds)
        | c =>
          match ← escapedOctet with
          | some d => return .octet s.modes.folds d
          | none =>
            if isLetter c then throw "unrecognized character follows \\"
            skip 1
            return .octet s.modes.folds c

mutual

/-- Alternatives, up to a closing sign or the end; the numbers of groups may start anew in each. -/
def alternatives (depth : Nat) (resets : Bool) : Reader Pattern :=
  match depth with
  | 0 => throw "regular expression is too large"
  | depth + 1 => do
    let before := (← get).groups
    let a ← sequence depth
    match (← get).rest with
    | '|' :: _ =>
      skip 1
      let after := (← get).groups
      if resets then modify fun s => { s with groups := before }
      let b ← alternatives depth resets
      modify fun s => { s with groups := max s.groups after }
      return .alt a b
    | _ => return a

/-- What follows each other. -/
def sequence (depth : Nat) : Reader Pattern :=
  match depth with
  | 0 => throw "regular expression is too large"
  | depth + 1 => do
    let s ← get
    match s.rest with
    | [] | '|' :: _ | ')' :: _ => return .empty
    | c :: rest =>
      if s.modes.spaced && (c = ' ' || ('\t' ≤ c && c ≤ '\r')) then
        skip 1
        sequence depth
      else if s.modes.spaced && c = '#' then
        skip ((rest.takeWhile (· ≠ '\n')).length + 1)
        sequence depth
      else if (bounds? s.rest).isSome || c = '*' || c = '+' || c = '?' then
        throw "quantifier does not follow a repeatable item"
      else
        let a ← item depth
        let a ← repeated depth a
        return .seq a (← sequence depth)

/-- A part with the repetition behind it. -/
def repeated (depth : Nat) (a : Pattern) : Reader Pattern :=
  match depth with
  | 0 => throw "regular expression is too large"
  | depth + 1 => do
    let cs := (← get).rest
    let found : Option (Nat × Option Nat × Nat) := match cs with
      | '*' :: _ => some (0, none, 1)
      | '+' :: _ => some (1, none, 1)
      | '?' :: _ => some (0, some 1, 1)
      | cs => bounds? cs
    match found with
    | none => return a
    | some (least, most, n) =>
      if most.any (· < least) then throw "numbers out of order in \x7b\x7d quantifier"
      if 65535 < least || most.any (65535 < ·) then throw "number too big in \x7b\x7d quantifier"
      skip n
      match (← get).rest with
      | '?' :: _ =>
        skip 1
        repeated depth (.times a least most .lazy)
      | '+' :: _ =>
        skip 1
        repeated depth (.atomic (.times a least most .greedy))
      | _ => repeated depth (.times a least most .greedy)

/-- A part of a sequence. -/
def item (depth : Nat) : Reader Pattern :=
  match depth with
  | 0 => throw "regular expression is too large"
  | depth + 1 => do
    let s ← get
    match s.rest with
    | '.' :: _ =>
      skip 1
      return if s.modes.dotAll then .set true [] else .set true [.range '\n' '\n']
    | '^' :: _ =>
      skip 1
      return .place (if s.modes.lines then .lineStart else .start)
    | '$' :: _ =>
      skip 1
      return .place (if s.modes.lines then .lineEnd else .finish)
    | '[' :: rest =>
      let negated := rest.head? = some '^'
      skip (if negated then 2 else 1)
      let members ← setMembers (s.rest.length + 1) true
      return .set negated (foldedMembers s.modes.folds members)
    | '\\' :: _ =>
      skip 1
      escaped
    | '(' :: '?' :: rest =>
      skip 2
      special depth rest
    | '(' :: '*' :: rest =>
      skip ((rest.takeWhile (· ≠ ')')).length + 3)
      return .empty
    | '(' :: _ =>
      skip 1
      let number ← newGroup none
      return .group number (← inside depth false)
    | c :: _ =>
      skip 1
      return .octet s.modes.folds c
    | [] => return .empty

/-- What stands up to a closing sign, which is passed; modes that it switches end with it. -/
def inside (depth : Nat) (resets : Bool) : Reader Pattern :=
  match depth with
  | 0 => throw "regular expression is too large"
  | depth + 1 => do
    let modes := (← get).modes
    let a ← alternatives depth resets
    match (← get).rest with
    | ')' :: _ =>
      skip 1
      modify fun s => { s with modes }
      return a
    | _ => throw "missing closing parenthesis"

/-- A part that starts with an opening sign and a question mark, which have been passed. -/
def special (depth : Nat) (cs : Octets) : Reader Pattern :=
  match depth with
  | 0 => throw "regular expression is too large"
  | depth + 1 => do
    let looked (n : Nat) (ahead negated : Bool) : Reader Pattern := do
      skip n
      let a ← inside depth false
      if !ahead && !a.isBounded then throw "lookbehind assertion is not fixed length"
      return .look ahead negated a
    let grouped (n : Nat) (sign : Char) : Reader Pattern := do
      skip n
      let number ← newGroup (some (← nameUntil sign))
      return .group number (← inside depth false)
    match cs with
    | ':' :: _ =>
      skip 1
      inside depth false
    | '|' :: _ =>
      skip 1
      inside depth true
    | '>' :: _ =>
      skip 1
      return .atomic (← inside depth false)
    | '=' :: _ => looked 1 true false
    | '!' :: _ => looked 1 true true
    | '<' :: '=' :: _ => looked 2 false false
    | '<' :: '!' :: _ => looked 2 false true
    | '<' :: _ => grouped 1 '>'
    | '\'' :: _ => grouped 1 '\''
    | 'P' :: '<' :: _ => grouped 2 '>'
    | 'P' :: '=' :: _ =>
      skip 2
      asks (← named (← nameUntil ')'))
    | '#' :: rest =>
      skip ((rest.takeWhile (· ≠ ')')).length + 2)
      return .empty
    | '(' :: '?' :: rest =>
      skip 2
      let condition ← special depth rest
      let (a, b) ← branches depth
      return .ifMatch condition a b
    | '(' :: _ =>
      skip 1
      let name ← nameUntil ')'
      let name := if name.head? = some '<' || name.head? = some '\'' then
        (name.drop 1).dropLast else name
      let number ← match decimal? name with
        | some n => pure n
        | none => named name
      modify fun s => { s with asked := max s.asked number }
      let (a, b) ← branches depth
      return .ifHeld number a b
    | cs =>
      match switched true (← get).modes cs with
      | .error why => throw why
      | .ok (modes, rest) =>
        let before := (← get).modes
        modify fun s => { s with rest := rest.drop 1, modes }
        if rest.head? = some ':' then
          let a ← inside depth false
          modify fun s => { s with modes := before }
          return a
        else return .empty

/-- The two branches of a condition, up to its closing sign. -/
def branches (depth : Nat) : Reader (Pattern × Pattern) :=
  match depth with
  | 0 => throw "regular expression is too large"
  | depth + 1 => do
    let a ← inside depth false
    match a with
    | .alt a (.alt _ _) => return (a, .empty)
    | .alt a b => return (a, b)
    | a => return (a, .empty)

end

/-- The pattern that octets spell. -/
def parse (folds : Bool) (cs : Octets) : Except String Pattern := do
  let (p, s) ← (alternatives (8 * cs.length + 16) false).run
    { rest := cs, modes := { folds } }
  if !s.rest.isEmpty then throw "unmatched closing parenthesis"
  if s.groups < s.asked then throw "reference to non-existent subpattern"
  return p

end BulkSuppress.Shell.Backtracking
