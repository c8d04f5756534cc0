import BulkSuppress.Shell.Numeral
import BulkSuppress.Shell.Regex.Reader
import BulkSuppress.Shell.Utility.Arguments
import BulkSuppress.Shell.Utility.Output

/-
  Utilities that take text by lines or octets and write what they make of it. For numbers in front
  of lines, marks on lines of their own part a text into heads, bodies and feet, each of which has a
  style that says which lines have numbers.
-/

namespace BulkSuppress.Shell.Utility

/-! ## Whole files -/

/-- Lines with their numbers in front, as far as they are to have them. -/
def numberLines (skipsEmpty : Bool) (start : Nat) (lines : List Octets) : List Octets × Nat :=
  lines.foldl (fun (acc, n) l =>
    if skipsEmpty && l.isEmpty then (acc ++ [l], n)
    else (acc ++ [padLeft 6 (decimal n) ++ ['\t'] ++ l], n + 1)) ([], start)

/-- An octet with a mark for what cannot be seen. -/
def visible (c : Char) : Octets :=
  if c = '\t' || c = '\n' then [c]
  else if c.toNat < 0x20 then ['^', Char.ofNat (c.toNat + 64)]
  else if c.toNat = 0x7f then ['^', '?']
  else if c.toNat < 0x80 then [c]
  else
    let d := c.toNat - 0x80
    "M-".toList ++ (if d < 0x20 then ['^', Char.ofNat (d + 64)] else if d = 0x7f then ['^', '?']
      else [Char.ofNat d])

/-- Write files one after the other. -/
def cat : Action := fun args =>
  withOptions { name := "cat", letters := "benstuvAET"
                longs := [("number-nonblank", 'b'), ("number", 'n'), ("squeeze-blank", 's'),
                  ("show-nonprinting", 'v'), ("show-ends", 'E'), ("show-tabs", 'T'),
                  ("show-all", 'A')] } args fun choices files => do
    let marksEnds := chosen choices "AeE"
    let marksTabs := chosen choices "AtT"
    let marks := chosen choices "Aetv"
    let numbers := chosen choices "nb"
    if !(marksEnds || marksTabs || marks || numbers || chosen choices "s") then
      copyOut "cat" files
    else
      let mut all : Octets := []
      let mut status := 0
      for file in if files.isEmpty then [['-']] else files do
        match ← input? "cat" file with
        | some cs => all := all ++ cs
        | none => status := 1
      let (lines, ended) := Octets.lines all
      let lines := if chosen choices "s" then
          (lines.foldl
            (fun acc l => if l.isEmpty && acc.head?.any (·.isEmpty) then acc else l :: acc)
            []).reverse
        else lines
      let shown := lines.map fun l => l.flatMap fun c =>
        if c = '\t' then (if marksTabs then "^I".toList else [c])
        else if marks then visible c else [c]
      let shown := if numbers then (numberLines (chosen choices "b") 1 shown).1 else shown
      let lineEnd := if marksEnds then ['$', '\n'] else ['\n']
      let shown := if marksEnds && !marks then
          shown.mapIdx fun i l =>
            if l.getLast? = some '\r' && (ended || i + 1 < shown.length) then
              l.dropLast ++ "^M".toList
            else l
        else shown
      let text := Octets.join lineEnd shown
      Run.write (if ended && !lines.isEmpty then text ++ lineEnd else text)
      return status

/-- Records that each end with a separator, but for the last one, which may have none. -/
def records (separator : Octets → Option Nat) (cs : Octets) : List Octets :=
  let step (s : List Octets × Octets × Nat) (rest : Octets) : List Octets × Octets × Nat :=
    let (done, current, inside) := s
    match rest with
    | [] => s
    | c :: _ =>
      let inside := if inside = 0 then (separator rest).getD 0 else inside
      let current := current ++ [c]
      if inside = 1 then (done ++ [current], [], 0) else (done, current, inside - 1)
  let (done, current, _) := (ends cs).foldl step ([], [], 0)
  if current.isEmpty then done else done ++ [current]

/-- Records that each begin with a separator, but for the first one, which may have none. -/
def recordsBefore (separator : Octets → Option Nat) (cs : Octets) : List Octets :=
  let step (s : List Octets × Octets × Nat) (rest : Octets) : List Octets × Octets × Nat :=
    let (done, current, inside) := s
    match rest with
    | [] => s
    | c :: _ =>
      if inside = 0 then
        match separator rest with
        | some n => (if current.isEmpty then done else done ++ [current], [c], n - 1)
        | none => (done, current ++ [c], 0)
      else (done, current ++ [c], inside - 1)
  let (done, current, _) := (ends cs).foldl step ([], [], 0)
  if current.isEmpty then done else done ++ [current]

/-- Write the lines of files in the opposite order. -/
def tac : Action := fun args =>
  withOptions { name := "tac", letters := "brs:"
                longs := [("before", 'b'), ("regex", 'r'), ("separator", 's')] } args
    fun choices files => do
    let mark := (valueOf? choices "s").getD ['\n']
    let mark := if mark.isEmpty then ['\x00'] else mark
    let separator : Except String (Octets → Option Nat) :=
      if chosen choices "r" then
        (Regex.parse {} mark).map fun r rest =>
          ((Regex.matchAt { octets := rest.toArray } r 0).map (·.1)).filter (0 < ·)
      else .ok fun rest => if mark.isPrefixOf rest then some mark.length else none
    match separator with
    | .error why =>
      complain "tac" why.toList
      return 1
    | .ok separator =>
      let mut status := 0
      for file in if files.isEmpty then [['-']] else files do
        match ← contentOf file with
        | .ok cs =>
          let parts := if chosen choices "b" then recordsBefore separator cs
            else records separator cs
          Run.write parts.reverse.flatten
        | .error e =>
          status := 1
          if e = .isDirectory then complain "tac" (shownName file ++ ": read error: ".toList ++
            "Invalid argument".toList)
          else complain "tac" ("failed to open ".toList ++ shellQuoted file ++
            " for reading: ".toList ++ (reasonOf e).toList)
      return status

/-- Write lines with their octets in the opposite order. -/
def rev : Action := fun args =>
  withOptions { name := "rev", letters := "" } args fun _ files =>
    forEachInput "rev" files fun _ cs => do
      let (lines, ended) := Octets.lines cs
      let text := Octets.join ['\n'] (lines.map List.reverse)
      Run.write (if ended && !lines.isEmpty then text ++ ['\n'] else text)

/-- The names of what to do when something cannot be written. -/
def errorNames : List (List String × Nat) :=
  [(["warn"], 0), (["warn-nopipe"], 1), (["exit"], 2), (["exit-nopipe"], 3)]

/-- Write the input to files too. -/
def tee : Action := fun args =>
  withOptions { name := "tee", letters := "aipω::"
                longs := [("append", 'a'), ("ignore-interrupts", 'i'), ("output-error", 'ω')] }
      args fun choices files => do
    for c in choices do
      if c.letter = 'ω' && !c.value.isEmpty then
        let some _ ← namedValue? "tee" "--output-error" errorNames c.value | return 1
    let mut status := 0
    let mut places : List (Nat × Octets) := []
    for file in files do
      let m ← get
      let opened : Except SystemError (Machine × Channel) := do
        let (loc, m) ← m.openFile ⟨Octets.toText file⟩
        let m := if chosen choices "a" then m else m.withContent loc .empty
        return (m, ← Machine.channelAt m.disk loc true)
      match opened with
      | .error e =>
        complainAbout "tee" (shownName file) e
        status := 1
      | .ok (m, channel) =>
        places := places ++ [(m.channels.length, file)]
        set { m with channels := m.channels ++ [channel] }
    let copy (cs : Octets) : Run Unit := do
      Run.write cs
      for (n, _) in places do
        if ((← get).refusal? n).isNone then modify (·.written n cs)
    forEachPiece copy
    for (n, file) in places do
      match (← get).refusal? n with
      | some e =>
        complainAbout "tee" (shownName file) e
        status := 1
      | none => pure ()
    return status

end BulkSuppress.Shell.Utility

namespace BulkSuppress.Shell.Utility.Numbering

/-! ## Lines with numbers -/

/-- Which lines have numbers. -/
inductive Style where
  | all
  | nonempty
  | none
  | matching (r : Regex)

/-- Where a number stands in its column. -/
inductive Alignment where
  | left
  | right
  /-- At the right, with zeros in front. -/
  | zeros
deriving DecidableEq, Repr

/-- How lines are numbered. -/
structure Request where
  head : Style := .none
  body : Style := .nonempty
  foot : Style := .none
  start : Int := 1
  step : Int := 1
  /-- Each part starts anew. -/
  restarts : Bool := true
  /-- Of so many empty lines one has a number, where all lines have. -/
  joined : Nat := 1
  separator : Octets := ['\t']
  width : Nat := 6
  alignment : Alignment := .right
  mark : Octets := ['\\', ':']

/-- The state behind a line. -/
structure State where
  style : Style
  number : Int
  /-- The number of empty lines since the last one with a number. -/
  empties : Nat := 0

/-- A number as it stands in its column. -/
def Request.column (q : Request) (n : Int) : Octets :=
  let digits := (toString n.natAbs).toList
  let sign : Octets := if n < 0 then ['-'] else []
  let text := sign ++ digits
  match q.alignment with
  | .right => padLeft q.width text
  | .left => text ++ List.replicate (q.width - text.length) ' '
  | .zeros => sign ++ List.replicate (q.width - text.length) '0' ++ digits

/-- The style of the part that a line of marks begins, if it does. -/
def Request.part? (q : Request) (line : Octets) : Option Style :=
  if line = q.mark ++ q.mark ++ q.mark then some q.head
  else if line = q.mark ++ q.mark then some q.body
  else if line = q.mark then some q.foot
  else Option.none

/-- What is written for a line, and the state behind it. -/
def Request.line (q : Request) (s : State) (line : Octets) : Octets × State :=
  match q.part? line with
  | some style =>
    (['\n'], { s with style, number := if q.restarts then q.start else s.number })
  | Option.none =>
    let bare := List.replicate (q.width + q.separator.length) ' ' ++ line ++ ['\n']
    let numbered := q.column s.number ++ q.separator ++ line ++ ['\n']
    let next := { s with number := s.number + q.step }
    match s.style with
    | .none => (bare, s)
    | .nonempty => if line.isEmpty then (bare, s) else (numbered, next)
    | .matching r =>
      if Regex.occurs { octets := line.toArray } r then (numbered, next) else (bare, s)
    | .all =>
      if q.joined ≤ 1 || !line.isEmpty || q.joined ≤ s.empties + 1 then
        (numbered, { next with empties := 0 })
      else (bare, { s with empties := s.empties + 1 })

/-! ## Arguments -/

/-- Why options make no sense: a text, and whether a hint follows. -/
abbrev Fault := Octets × Bool

/-- The style that a text asks for. -/
def style (what : String) (cs : Octets) : Except Fault Style :=
  match cs with
  | 'a' :: _ => .ok .all
  | 't' :: _ => .ok .nonempty
  | 'n' :: _ => .ok .none
  | 'p' :: pattern =>
    match Regex.parse { emptyRanges := true } pattern with
    | .ok r => .ok (.matching r)
    | .error why => .error (why.toList, false)
  | _ => .error (("invalid " ++ what ++ " numbering style: ").toList ++ quoted cs, true)

/-- The whole number that a text spells, within bounds. -/
def integer (what : String) (least most : Int) (cs : Octets) : Except Fault Int :=
  let bad (why : String) : Except Fault Int :=
    .error (what.toList ++ ": ".toList ++ quoted cs ++ why.toList, false)
  let blank (c : Char) : Bool := c = ' ' || ('\t' ≤ c && c ≤ '\r')
  let (negative, digits) := match cs.dropWhile blank with
    | '-' :: ds => (true, ds)
    | '+' :: ds => (false, ds)
    | ds => (false, ds)
  match decimal? digits with
  | Option.none => bad ""
  | some n =>
    let n : Int := if negative then -n else n
    if n < -9223372036854775808 || 9223372036854775807 < n then
      bad ": Value too large for defined data type"
    else if n < least || most < n then bad ": Numerical result out of range"
    else .ok n

/-- The request with what an option asks for. -/
def withChoice (q : Request) (c : Choice) : Except Fault Request := do
  let high : Int := 9223372036854775807
  match c.letter with
  | 'h' => return { q with head := ← style "header" c.value }
  | 'b' => return { q with body := ← style "body" c.value }
  | 'f' => return { q with foot := ← style "footer" c.value }
  | 'v' => return { q with start := ← integer "invalid starting line number" (-high - 1) high c.value }
  | 'i' => return { q with step := ← integer "invalid line number increment" (-high - 1) high c.value }
  | 'p' => return { q with restarts := false }
  | 'l' =>
    return { q with joined := (← integer "invalid line number of blank lines" 1 high c.value).toNat }
  | 's' => return { q with separator := c.value }
  | 'w' =>
    return { q with
      width := (← integer "invalid line number field width" 1 2147483647 c.value).toNat }
  | 'n' =>
    match String.ofList c.value with
    | "ln" => return { q with alignment := .left }
    | "rn" => return { q with alignment := .right }
    | "rz" => return { q with alignment := .zeros }
    | _ => throw ("invalid line numbering format: ".toList ++ quoted c.value, true)
  | 'd' =>
    match c.value with
    | [a] => return { q with mark := [a, ':'] }
    | cs => return { q with mark := cs }
  | _ => return q

/-- The options. -/
def spec : Options where
  name := "nl"
  letters := "h:b:f:v:i:pl:s:w:n:d:"
  longs := [("header-numbering", 'h'), ("body-numbering", 'b'), ("footer-numbering", 'f'),
    ("starting-line-number", 'v'), ("line-increment", 'i'), ("no-renumber", 'p'),
    ("join-blank-lines", 'l'), ("number-separator", 's'), ("number-width", 'w'),
    ("number-format", 'n'), ("section-delimiter", 'd')]

/-- Write the lines of files with numbers. -/
def run : Action := fun args =>
  withOptions spec args fun choices files => do
    match choices.foldlM withChoice ({} : Request) with
    | .error (why, hinted) =>
      complain "nl" why
      if hinted then hint "nl"
      return 1
    | .ok q =>
      let mut s : State := { style := q.body, number := q.start }
      let mut status := 0
      for file in if files.isEmpty then [['-']] else files do
        match ← input? "nl" file with
        | Option.none => status := 1
        | some cs =>
          for l in (Octets.lines cs).1 do
            let (text, next) := q.line s l
            Run.write text
            s := next
      return status

end BulkSuppress.Shell.Utility.Numbering
