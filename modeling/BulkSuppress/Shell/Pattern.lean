import BulkSuppress.Disk.Change
import BulkSuppress.Shell.Octets

/-
  Patterns of shell scripts. Wildcards that stand unquoted match other octets than themselves;
  `isMatch` is about a whole text, `paths` about the entries of directories. A name that starts
  with a dot is only found by a pattern that does.
-/

namespace BulkSuppress.Shell

/-- An octet of a pattern, with whether it is quoted. -/
abbrev Marked := Char × Bool

/-- What a set in a pattern has for a member. -/
inductive Member where
  | range (first last : Char)
  /-- A class of octets by name. -/
  | named (name : Octets)
deriving DecidableEq, Repr

/-- A part of a pattern. -/
inductive PatternPart where
  | char (c : Char)
  | anyChar
  | anyText
  | oneOf (negated : Bool) (members : List Member)
  /-- One of some patterns, as often as a sign says. -/
  | group (sign : Char) (alternatives : List (List PatternPart))

/-- A control of ASCII. -/
def isControl (c : Char) : Bool := c.toNat < 0x20 || c = '\x7f'

/-- An octet that ASCII shows with a mark. -/
def isGraphic (c : Char) : Bool := '!' ≤ c && c ≤ '~'

/-- An octet of a class of ASCII. -/
def isInClass (name : String) (c : Char) : Bool :=
  match name with
  | "alpha" => isLetter c
  | "digit" => isDigit c
  | "alnum" => isLetter c || isDigit c
  | "upper" => 'A' ≤ c && c ≤ 'Z'
  | "lower" => 'a' ≤ c && c ≤ 'z'
  | "space" => " \t\n\r\x0b\x0c".toList.contains c
  | "blank" => c = ' ' || c = '\t'
  | "punct" => isGraphic c && !isLetter c && !isDigit c
  | "print" => isGraphic c || c = ' '
  | "graph" => isGraphic c
  | "cntrl" => isControl c
  | "xdigit" => (digitIn? 16 c).isSome
  | _ => false

/-- The octet is a member. -/
def Member.has (c : Char) : Member → Bool
  | .range first last => first ≤ c && c ≤ last
  | .named name => isInClass (String.ofList name) c

/-- The name of a class at the front, between its brackets and colons. -/
def className? (cs : List Marked) : Option Octets :=
  match cs with
  | ('[', false) :: (':', false) :: rest =>
    let name := (rest.takeWhile fun m => isLetter m.1).map (·.1)
    match rest.drop name.length with
    | (':', false) :: (']', false) :: _ => some name
    | _ => none
  | _ => none

/-- The members of a set from its first one on, and the octets behind the set. -/
def members (isFirst : Bool) (cs : List Marked) : Option (List Member × List Marked) :=
  match cs with
  | [] => none
  | m :: ('-', false) :: (last, q) :: after =>
    if m = (']', false) && !isFirst then some ([], ('-', false) :: (last, q) :: after)
    else if (last, q) = (']', false) then some ([.range m.1 m.1, .range '-' '-'], after)
    else (members false after).map fun r => (.range m.1 last :: r.1, r.2)
  | m :: rest =>
    if m = (']', false) && !isFirst then some ([], rest)
    else match className? (m :: rest) with
      | some name =>
        (members false (rest.drop (name.length + 3))).map fun r => (.named name :: r.1, r.2)
      | none => (members false rest).map fun r => (.range m.1 m.1 :: r.1, r.2)
termination_by cs.length
decreasing_by all_goals simp only [List.length_cons, List.length_drop]; omega

/-- The first part of a pattern, and what is behind it. -/
def firstPart (c : Char) (quoted : Bool) (rest : List Marked) : PatternPart × List Marked :=
  if quoted then (.char c, rest)
  else if c = '*' then (.anyText, rest)
  else if c = '?' then (.anyChar, rest)
  else if c = '[' then
    let negated := rest.head? = some ('!', false) || rest.head? = some ('^', false)
    match members true (if negated then rest.drop 1 else rest) with
    | some (ms, after) =>
      if after.length ≤ rest.length then (.oneOf negated ms, after) else (.char c, rest)
    | none => (.char c, rest)
  else (.char c, rest)

/-- The first part of a pattern leaves no more than what is behind its first octet. -/
theorem length_firstPart_le (c : Char) (quoted : Bool) (rest : List Marked) :
    (firstPart c quoted rest).2.length ≤ rest.length := by
  unfold firstPart
  split
  · simp
  split
  · simp
  split
  · simp
  split
  · dsimp only
    split
    · split
      · assumption
      · simp
    · simp
  · simp

/-- The parts of a pattern. -/
def patternParts (cs : List Marked) : List PatternPart :=
  match cs with
  | [] => []
  | (c, quoted) :: rest =>
    (firstPart c quoted rest).1 :: patternParts (firstPart c quoted rest).2
termination_by cs.length
decreasing_by
  have := length_firstPart_le c quoted rest
  simp only [List.length_cons]
  omega

/--
The alternatives of a group up to the parenthesis that closes it, behind the octets of the present
one, and what is behind that parenthesis.
-/
def alternatives? (depth : Nat) (present : List Marked) :
    List Marked → Option (List (List Marked) × List Marked)
  | [] => none
  | m :: rest =>
    if m = (')', false) && depth = 0 then some ([present.reverse], rest)
    else if m = ('|', false) && depth = 0 then
      (alternatives? 0 [] rest).map fun r => (present.reverse :: r.1, r.2)
    else
      let depth := if m = ('(', false) then depth + 1
        else if m = (')', false) then depth - 1 else depth
      alternatives? depth (m :: present) rest

/-- The parts of a pattern that can have groups. -/
def groupedParts : Nat → List Marked → List PatternPart
  | 0, _ | _, [] => []
  | n + 1, (c, quoted) :: rest =>
    match if !quoted && "?*+@!".toList.contains c && rest.head? = some ('(', false) then
        alternatives? 0 [] rest.tail else none with
    | some (alternatives, after) =>
      .group c (alternatives.map (groupedParts n)) :: groupedParts n after
    | none => (firstPart c quoted rest).1 :: groupedParts n (firstPart c quoted rest).2

/-- The parts of a pattern that a text spells, where a backslash quotes what follows it. -/
def textParts (cs : Octets) : List PatternPart :=
  patternParts (marked cs)
where
  /-- The octets, with a mark for those that are quoted. -/
  marked : Octets → List Marked
    | '\\' :: c :: cs => (c, true) :: marked cs
    | c :: cs => (c, false) :: marked cs
    | [] => []

/-- All ends of a text, the text itself first. -/
def ends : Octets → List Octets
  | [] => [[]]
  | c :: cs => (c :: cs) :: ends cs

/-- The ways to cut a text in two. -/
def cuts (cs : Octets) : List (Octets × Octets) :=
  (List.range (cs.length + 1)).map fun n => (cs.take n, cs.drop n)

/-- The text consists of pieces of one kind, of which each has something in it, and a rest. -/
def consistsOf (piece rest : Octets → Bool) : Nat → Octets → Bool
  | 0, cs => rest cs
  | n + 1, cs =>
    rest cs || (cuts cs).any fun c => !c.1.isEmpty && piece c.1 && consistsOf piece rest n c.2

mutual

/-- The pattern matches the whole text. -/
def isMatch : List PatternPart → Octets → Bool
  | [], cs => cs.isEmpty
  | .anyText :: ps, cs => (ends cs).any (isMatch ps)
  | .group sign alternatives :: ps, cs =>
    let one (cs : Octets) : Bool := isMatchOfOne alternatives cs
    let rest (cs : Octets) : Bool := isMatch ps cs
    if sign = '*' then consistsOf one rest cs.length cs
    else if sign = '+' then
      (cuts cs).any fun c => one c.1 && consistsOf one rest c.2.length c.2
    else if sign = '!' then (cuts cs).any fun c => !one c.1 && rest c.2
    else (sign = '?' && rest cs) || (cuts cs).any fun c => one c.1 && rest c.2
  | .anyChar :: ps, cs =>
    match cs with
    | _ :: cs => isMatch ps cs
    | [] => false
  | .char p :: ps, cs =>
    match cs with
    | c :: cs => p == c && isMatch ps cs
    | [] => false
  | .oneOf negated members :: ps, cs =>
    match cs with
    | c :: cs => (members.any (·.has c) != negated) && isMatch ps cs
    | [] => false

/-- One of the patterns matches the whole text. -/
def isMatchOfOne : List (List PatternPart) → Octets → Bool
  | [], _ => false
  | ps :: rest, cs => isMatch ps cs || isMatchOfOne rest cs

end

/-- The text without the shortest or the longest prefix that the pattern matches. -/
def withoutPrefix (longest : Bool) (ps : List PatternPart) (cs : Octets) : Octets :=
  let lengths := List.range (cs.length + 1)
  let lengths := if longest then lengths.reverse else lengths
  match lengths.find? fun n => isMatch ps (cs.take n) with
  | some n => cs.drop n
  | none => cs

/-- The text without the shortest or the longest suffix that the pattern matches. -/
def withoutSuffix (longest : Bool) (ps : List PatternPart) (cs : Octets) : Octets :=
  let lengths := List.range (cs.length + 1)
  let lengths := if longest then lengths else lengths.reverse
  match lengths.find? fun n => isMatch ps (cs.drop n) with
  | some n => cs.take n
  | none => cs

/-! ## Paths -/

/-- Which names patterns find. -/
structure Globbing where
  /-- Patterns can have groups. -/
  groups : Bool := false
  /-- Names that start with a dot are found by any pattern. -/
  hidden : Bool := false
  /-- The directory itself and the one above are not found by their names. -/
  skipsDots : Bool := false
  /-- Two stars find directories at any depth. -/
  deep : Bool := false
  /-- Letters are found in either case. -/
  foldsCase : Bool := false

/-- The parts of a pattern. -/
def Globbing.parts (g : Globbing) (pattern : List Marked) : List PatternPart :=
  let pattern := if g.foldsCase then pattern.map fun m => (m.1.toLower, m.2) else pattern
  if g.groups then groupedParts (pattern.length + 1) pattern else patternParts pattern

/-- A group of patterns starts in the text. -/
def hasGroup : List Marked → Bool
  | (c, false) :: ('(', false) :: rest => "?*+@!".toList.contains c || hasGroup rest
  | _ :: rest => hasGroup rest
  | [] => false

/-- A wildcard stands in the text. -/
def Globbing.isWild (g : Globbing) (cs : List Marked) : Bool :=
  (cs.any fun m => !m.2 && (m.1 = '*' || m.1 = '?' || m.1 = '[')) || (g.groups && hasGroup cs)

/-- The pieces of a pattern between slashes. -/
def patternPieces : List Marked → List (List Marked)
  | [] => [[]]
  | m :: cs =>
    if m.1 = '/' then [] :: patternPieces cs
    else match patternPieces cs with
      | p :: ps => (m :: p) :: ps
      | [] => [[m]]

/-- The names in a directory that a pattern finds, in order. -/
def namesFor (g : Globbing) (d : Disk) (dir : Octets) (pattern : List Marked) : List Octets :=
  let ps := g.parts pattern
  let startsDotted := pattern.head?.any fun m => m.1 = '.'
  match d.resolve ⟨Octets.toText (if dir.isEmpty then ['.'] else dir)⟩ with
  | .error _ => []
  | .ok loc =>
    let names := (d.children loc).map Octets.ofText
    let names := if startsDotted && !g.skipsDots then ['.'] :: ['.', '.'] :: names else names
    let folded (n : Octets) : Octets := if g.foldsCase then n.map Char.toLower else n
    Octets.sorted (names.filter fun n =>
      (startsDotted || g.hidden || n.head? ≠ some '.') && isMatch ps (folded n))

/-- The directories below one, at any depth, behind itself; each ends in a slash. -/
def directoriesBelow (g : Globbing) (d : Disk) : Nat → Octets → List Octets
  | 0, dir => [dir]
  | n + 1, dir =>
    let names := namesFor g d dir [('*', false)]
    let inner := names.filter fun name =>
      match d.selfAt? ⟨Octets.toText (dir ++ name)⟩ with
      | some .directory => true
      | _ => false
    dir :: inner.flatMap fun name => directoriesBelow g d n (dir ++ name ++ ['/'])

/-- The number of directories inside each other that are looked into. -/
def deepLimit : Nat := 64

/-- The pattern stands for directories at any depth. -/
def Globbing.isDeep (g : Globbing) (p : List Marked) : Bool :=
  g.deep && p = [('*', false), ('*', false)]

/-- The paths that pieces of a pattern find, behind those of the directories in front. -/
def pathsBelow (g : Globbing) (d : Disk) (dir : Octets) : List (List Marked) → List Octets
  | [] => []
  | [p] =>
    let found :=
      if g.isDeep p then
        dir :: (directoriesBelow g d deepLimit dir).flatMap fun dir =>
          (namesFor g d dir [('*', false)]).map (dir ++ ·)
      else if g.isWild p then (namesFor g d dir p).map (dir ++ ·)
      else [dir ++ p.map (·.1)]
    found.filter fun path => !path.isEmpty && (d.selfAt? ⟨Octets.toText path⟩).isSome
  | p :: rest =>
    if g.isDeep p then
      (directoriesBelow g d deepLimit dir).flatMap fun dir => pathsBelow g d dir rest
    else
      let found := if g.isWild p then namesFor g d dir p else [p.map (·.1)]
      found.flatMap fun name => pathsBelow g d (dir ++ name ++ ['/']) rest

/-- The paths that a pattern finds, in order. -/
def paths (g : Globbing) (d : Disk) (pattern : List Marked) : List Octets :=
  Octets.sorted (pathsBelow g d [] (patternPieces pattern))

end BulkSuppress.Shell
