import BulkSuppress.Shell.Regex.Backtracking
import BulkSuppress.Shell.Utility.Output

/-
  Looking for lines in one text. A line is selected when one of the patterns matches it; what is
  written of the selected lines, and of those around them, is up to the request.
-/

namespace BulkSuppress.Shell.Utility.Grep

/-! ## Matches -/

/-- What lines are matched with. -/
inductive Matcher where
  | patterns (rs : List Regex)
  | backtracking (p : Backtracking.Pattern)

/-- What lines are looked for, and what of them is written. -/
structure Request where
  matcher : Matcher
  foldsCase : Bool := false
  inverted : Bool := false
  wholeLine : Bool := false
  wholeWord : Bool := false
  quiet : Bool := false
  silent : Bool := false
  counts : Bool := false
  numbers : Bool := false
  offsets : Bool := false
  onlyMatches : Bool := false
  /-- Write the names of files with selected lines. -/
  listsFiles : Bool := false
  /-- Write the names of files without selected lines. -/
  listsOthers : Bool := false
  named : Bool := false
  /-- What stands behind names instead of a sign. -/
  nameEnd : Option Char := none
  /-- The number of selected lines of a file after which to stop. -/
  most : Option Nat := none
  /-- The number of lines to write in front of and behind selected ones, if that was asked for. -/
  before : Option Nat := none
  after : Option Nat := none
  /-- What stands between lines that do not follow each other. -/
  parting : Option Octets := some ['-', '-']
  lineEnd : Char := '\n'
  /-- Files with octets of zero are texts too. -/
  readsBinary : Bool := false
  /-- Files with octets of zero are left out. -/
  skipsBinary : Bool := false
  colored : Bool := false
  aligned : Bool := false
  /-- The name of the input. -/
  label : Octets := "(standard input)".toList

/-- Octets that stand for themselves. -/
def literal (cs : Octets) : Regex := cs.foldr (fun c r => .seq (.char c) r) .empty

/-- The first match in a line from a place on, as the request wants matches to be. -/
def Request.matchFrom (q : Request) (line : Array Char) (start : Nat) : Option (Nat × Nat) :=
  let s : Regex.Subject := { octets := line, foldsCase := q.foldsCase }
  let size := line.size
  let isWord (i j : Nat) : Bool :=
    !(0 < i && s.isWordAt (i - 1)) && !s.isWordAt j
  let isWanted (i j : Nat) : Bool :=
    if q.wholeLine then i = 0 && j = size else !q.wholeWord || isWord i j
  match q.matcher with
  | .patterns rs =>
    let endsAt (i : Nat) : List Nat :=
      let all := rs.flatMap fun r =>
        if Regex.looksBack r then (Regex.matchAt s r i).toList.map (·.1) else Regex.ends s [] r i
      all.filter (isWanted i)
    ((List.range (size + 1 - start)).map (· + start)).findSome? fun i =>
      (endsAt i).max?.map fun j => (i, j)
  | .backtracking p =>
    Backtracking.find? line p start fun i found => isWanted (found.start.getD i) found.place

/-- A pattern matches the line. -/
def Request.hits (q : Request) (line : Octets) : Bool := (q.matchFrom line.toArray 0).isSome

/-- The matches in a line that hold something, from a place on: where they start and end. -/
def Request.matchesIn (q : Request) (line : Array Char) : Nat → Nat → List (Nat × Nat)
  | 0, _ => []
  | n + 1, start =>
    if line.size < start then []
    else match q.matchFrom line start with
      | none => []
      | some (i, j) =>
        if j ≤ i then q.matchesIn line n (max start i + 1)
        else (i, j) :: q.matchesIn line n j

/-! ## Lines -/

/-- A line of a text. -/
structure Line where
  number : Nat
  /-- The number of octets in front of it. -/
  offset : Nat
  text : Octets
  /-- A pattern matches it. -/
  hit : Bool
  /-- It is selected. -/
  selected : Bool
  /-- All lines that were to be selected are in front of it. -/
  isOver : Bool

/-- The lines of a text, and which of them are selected. -/
def Request.lines (q : Request) (texts : List Octets) : List Line :=
  (texts.foldl (fun (acc, number, offset, found) l =>
    let isOver := q.most.any (· ≤ found)
    let hit := q.hits l
    let selected := !isOver && hit != q.inverted
    (⟨number, offset, l, hit, selected, isOver⟩ :: acc, number + 1, offset + l.length + 1,
      if selected then found + 1 else found))
    (([] : List Line), 1, 0, 0)).1.reverse

/-- The lines that are written, selected or near to selected ones. Behind the last one that was to
be selected, the first line that would be selected too puts an end to them. -/
def Request.shown (q : Request) (lines : List Line) : List Line :=
  let numbers := (lines.filter (·.selected)).map (·.number)
  let before := q.before.getD 0
  let after := q.after.getD 0
  let beyond := (lines.dropWhile fun l => !l.isOver).takeWhile fun l => l.hit == q.inverted
  let limit := (lines.takeWhile fun l => !l.isOver).length + beyond.length
  (lines.take limit).filter fun l =>
    numbers.any fun n => n ≤ l.number + before && l.number ≤ n + after

/-! ## Writing -/

/-- A text in a color, if there are to be colors. -/
def Request.color (q : Request) (code : String) (cs : Octets) : Octets :=
  if q.colored && !cs.isEmpty then
    "\x1b[".toList ++ code.toList ++ "m\x1b[K".toList ++ cs ++ "\x1b[m\x1b[K".toList
  else cs

/-- The color of matches. -/
def matchColor : String := "01;31"

/-- A sign between the parts of what is written. -/
def Request.sign (q : Request) (c : Char) : Octets := q.color "36" [c]

/-- The name of a file with the sign behind it. -/
def Request.nameWith (q : Request) (name : Octets) (sign : Char) : Octets :=
  q.color "35" name ++ q.nameEnd.elim (q.sign sign) fun c => [c]

/-- What stands in front of a line or a match. -/
def Request.front (q : Request) (name : Octets) (sign : Char) (number offset length : Nat) :
    Octets :=
  let count (n : Nat) : Octets :=
    q.color "32" (padLeft (if q.aligned then 2 else 0) (decimal n)) ++ q.sign sign
  let tab : Octets :=
    if q.aligned && (q.named || q.numbers || q.offsets) && 0 < length then ['\t'] else []
  (if q.named then q.nameWith name sign else []) ++
    (if q.numbers then count number else []) ++ (if q.offsets then count offset else []) ++ tab

/-- A line with its matches in color. -/
def Request.highlighted (q : Request) (text : Octets) : Octets :=
  let line := text.toArray
  let step (s : Octets × Nat) (m : Nat × Nat) : Octets × Nat :=
    (s.1 ++ (line.extract s.2 m.1).toList ++
      q.color matchColor (line.extract m.1 m.2).toList, m.2)
  let (done, behind) := (q.matchesIn line (text.length + 1) 0).foldl step ([], 0)
  done ++ text.drop behind

/-- What is written of a line. -/
def Request.written (q : Request) (name : Octets) (l : Line) : Octets :=
  let sign := if l.selected then ':' else '-'
  let matching := l.selected != q.inverted
  if !q.onlyMatches then
    q.front name sign l.number l.offset l.text.length ++
      (if matching && q.colored then q.highlighted l.text else l.text) ++ [q.lineEnd]
  else if matching then
    let sign := if q.inverted then '-' else ':'
    (q.matchesIn l.text.toArray (l.text.length + 1) 0).flatMap fun (i, j) =>
      q.front name sign l.number (l.offset + i) (j - i) ++
        q.color matchColor ((l.text.drop i).take (j - i)) ++ [q.lineEnd]
  else []

/-- Write the lines that are asked for. Lines that do not follow each other are set apart. -/
def Request.writeLines (q : Request) (name : Octets) (isFirst : Bool) (lines : List Line) :
    Run Unit := do
  let mut isFirst := isFirst
  let mut last : Nat := 0
  for l in q.shown lines do
    if !isFirst && (last = 0 || last + 1 < l.number) && (q.before.isSome || q.after.isSome) then
      match q.parting with
      | some cs => Run.write (q.color "36" cs ++ ['\n'])
      | none => pure ()
    Run.write (q.written name l)
    isFirst := false
    last := l.number

/-- The lines of a text. -/
def Request.textsOf (q : Request) (cs : Octets) : List Octets :=
  let pieces := Text.pieces q.lineEnd cs
  if pieces.getLast? = some [] then pieces.dropLast else pieces

/-- Write what is asked for of a file, and tell whether a line was selected, here or before. -/
def Request.answer (q : Request) (found : Bool) (file cs : Octets) : Run Bool := do
  let isBinary := !q.readsBinary && q.lineEnd = '\n' && cs.contains '\x00'
  if isBinary && q.skipsBinary then
    if q.counts && !q.quiet && !q.listsFiles && !q.listsOthers then
      Run.write ((if q.named then q.nameWith file ':' else []) ++ "0\n".toList)
    return found
  let lines := q.lines (q.textsOf cs)
  let count := (lines.filter (·.selected)).length
  let name := if file = ['-'] then q.label else file
  if q.quiet then pure ()
  else if q.listsFiles || q.listsOthers then
    if q.listsFiles == (count ≠ 0 : Bool) then
      Run.write (q.color "35" name ++ [q.nameEnd.getD '\n'])
  else if q.counts then
    Run.write ((if q.named then q.nameWith name ':' else []) ++ decimal count ++ ['\n'])
  else if isBinary then
    if count ≠ 0 && !q.silent then
      Run.write ("grep: ".toList ++ name ++ ": binary file matches\n".toList)
  else q.writeLines name (!found) lines
  return found || count ≠ 0

/-- How much of the input is read: up to behind the last line that was to be selected. -/
def Request.readLength (q : Request) (cs : Octets) : Nat :=
  let lines := q.lines (q.textsOf cs)
  match q.most with
  | none => cs.length
  | some most =>
    match (lines.filter (·.selected))[most - 1]? with
    | some l => min cs.length (l.offset + l.text.length + 1)
    | none => cs.length

end BulkSuppress.Shell.Utility.Grep
