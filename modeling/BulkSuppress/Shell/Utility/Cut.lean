import BulkSuppress.Shell.Utility.Output

/-
  Parts of lines, by octets or by fields, and lines side by side. The wanted places of a line come as
  a list of ranges, which are put in order; ranges that overlap are one, but ranges that only touch
  stay two. Lines of files are set beside each other, or those of each file on one line, with
  delimiters taken in turn from a list. A delimiter of the list can be nothing at all.
-/

namespace BulkSuppress.Shell.Utility.Cut

/-! ## Ranges -/

/-- The places from one to another, the last one included. -/
structure Range where
  first : Nat
  last : Nat
deriving DecidableEq, Repr

/-- The place that stands for the end of any line. -/
def farthest : Nat := 18446744073709551615

/-- Why a list of ranges makes no sense. -/
inductive Fault where
  | zero
  | twoDashes
  | noEndpoint
  | decreasing
  | tooLarge (digits : Octets)
  | stray (rest : Octets)

/-- What is wrong with a list of ranges of fields or of octets. -/
def Fault.message (ofFields : Bool) : Fault → Octets
  | .zero =>
    (if ofFields then "fields" else "byte/character positions").toList ++
      " are numbered from 1".toList
  | .twoDashes =>
    (if ofFields then "invalid field range" else "invalid byte or character range").toList
  | .noEndpoint => "invalid range with no endpoint: -".toList
  | .decreasing => "invalid decreasing range".toList
  | .tooLarge digits =>
    (if ofFields then "field number " else "byte/character offset ").toList ++ quoted digits ++
      " is too large".toList
  | .stray rest =>
    (if ofFields then "invalid field value " else "invalid byte/character position ").toList ++
      quoted rest

/-- The number at the front of a text, and what is behind it. -/
def number? (cs : Octets) : Except Fault (Option Nat × Octets) :=
  let digits := cs.takeWhile isDigit
  let n := numberIn 10 digits
  if digits.isEmpty then .ok (none, cs)
  else if farthest ≤ n then .error (.tooLarge digits)
  else .ok (some n, cs.drop digits.length)

/-- What is behind a range, which has to be an end or the mark between two ranges. -/
def behindRange (cs : Octets) : Except Fault (Option Octets) :=
  match cs with
  | [] => .ok none
  | '-' :: _ => .error .twoDashes
  | c :: rest => if c = ',' || c = ' ' || c = '\t' then .ok (some rest) else .error (.stray cs)

/-- The range at the front of a text, and what is behind the mark that ends it. -/
def range (cs : Octets) : Except Fault (Range × Option Octets) := do
  let (low, rest) ← number? cs
  match rest with
  | '-' :: more =>
    if low = some 0 then throw .zero
    let first := low.getD 1
    let (high, rest) ← number? more
    let behind ← behindRange rest
    match high with
    | none =>
      if low.isNone then throw .noEndpoint
      return (⟨first, farthest⟩, behind)
    | some last =>
      if last < first then throw .decreasing
      return (⟨first, last⟩, behind)
  | rest =>
    let behind ← behindRange rest
    match low with
    | none | some 0 => throw .zero
    | some n => return (⟨n, n⟩, behind)

/-- The ranges that a text lists, of which there are no more than a number. -/
def rangesUpTo : Nat → Octets → Except Fault (List Range)
  | 0, _ => .ok []
  | n + 1, cs => do
    let (r, behind) ← range cs
    match behind with
    | none => return [r]
    | some rest => return r :: (← rangesUpTo n rest)

/-- Ranges in order, those that overlap as one. -/
def merged (ranges : List Range) : List Range :=
  let ordered := ranges.mergeSort fun a b => a.first ≤ b.first
  (ordered.foldl (fun acc r => match acc with
    | x :: rest =>
      if r.first ≤ x.last then { x with last := max x.last r.last } :: rest else r :: acc
    | [] => [r]) []).reverse

/-- The ranges between ranges in order, from some place on. -/
def gaps (start : Nat) : List Range → List Range
  | [] => if start ≤ farthest then [⟨start, farthest⟩] else []
  | r :: rest =>
    (if start < r.first then [⟨start, r.first - 1⟩] else []) ++ gaps (r.last + 1) rest

/-- The ranges that a text lists, or all others. -/
def ranges (others : Bool) (cs : Octets) : Except Fault (List Range) := do
  let listed := merged (← rangesUpTo (cs.length + 1) cs)
  return if others then gaps 1 listed else listed

/-- A place is in a range. -/
def Range.has (r : Range) (n : Nat) : Bool := r.first ≤ n && n ≤ r.last

/-! ## Lines -/

/-- How lines are cut. -/
structure Request where
  ofFields : Bool
  wanted : List Range
  delimiter : Char := '\t'
  /-- What is written between parts, if that was asked for. -/
  between : Option Octets := none
  /-- Lines without a delimiter are not written. -/
  onlyDelimited : Bool := false
  lineEnd : Char := '\n'

/-- The items at the places that are wanted. -/
def Request.picked {α : Type} (q : Request) (items : List α) : List (Nat × α) :=
  (items.mapIdx fun i x => (i + 1, x)).filter fun x => q.wanted.any (·.has x.1)

/-- The octets of a line that are wanted. -/
def Request.octets (q : Request) (line : Octets) : Octets :=
  let starts (n : Nat) : Bool := q.wanted.any (·.first = n)
  ((q.picked line).mapIdx fun i (n, c) =>
    (if 0 < i && starts n then q.between.getD [] else []) ++ [c]).flatten

/-- The fields of a line that are wanted, or none if the line is not to be written. -/
def Request.fields? (q : Request) (line : Octets) (isDelimited : Bool) : Option Octets :=
  let fields := Text.pieces q.delimiter line
  if fields.length = 1 && !isDelimited then if q.onlyDelimited then none else some line
  else some (Octets.join (q.between.getD [q.delimiter]) ((q.picked fields).map (·.2)))

/-- What is written for a text. -/
def Request.written (q : Request) (cs : Octets) : Octets :=
  if cs.isEmpty then []
  else
    let pieces := Text.pieces q.lineEnd cs
    let ended := pieces.getLast? = some []
    let lines := if ended then pieces.dropLast else pieces
    let cut :=
      if !q.ofFields then lines.map q.octets
      else if q.delimiter = q.lineEnd then
        (q.fields? (Octets.join [q.lineEnd] lines) ended).toList
      else lines.filterMap (q.fields? · false)
    cut.flatMap fun l => l ++ [q.lineEnd]

/-! ## Arguments -/

/-- The options; those without a letter of ASCII have long names only. -/
def spec : Options where
  name := "cut"
  letters := "b:c:d:f:nszκω:"
  longs := [("bytes", 'b'), ("characters", 'c'), ("fields", 'f'), ("delimiter", 'd'),
    ("only-delimited", 's'), ("output-delimiter", 'ω'), ("complement", 'κ'),
    ("zero-terminated", 'z')]

/-- The request that options make, or why they make no sense. -/
def request (choices : List Choice) : Except Octets Request := do
  let lists := choices.filter fun c => ['b', 'c', 'f'].contains c.letter
  let isLong := choices.any fun c => c.letter = 'd' && 1 < c.value.length
  if 1 < lists.length then throw "only one list may be specified".toList
  if isLong then throw "the delimiter must be a single character".toList
  match lists with
  | [] => throw "you must specify a list of bytes, characters, or fields".toList
  | list :: _ =>
    let ofFields := list.letter = 'f'
    if !ofFields && chosen choices "d" then
      throw "an input delimiter may be specified only when operating on fields".toList
    if !ofFields && chosen choices "s" then
      throw "suppressing non-delimited lines makes sense\n\tonly when operating on fields".toList
    match ranges (chosen choices "κ") list.value with
    | .error fault => throw (fault.message ofFields)
    | .ok wanted =>
      return {
        ofFields, wanted
        delimiter := (valueOf? choices "d").elim '\t' fun v => v.head?.getD '\x00'
        between := (valueOf? choices "ω").map fun v => if v.isEmpty then ['\x00'] else v
        onlyDelimited := chosen choices "s"
        lineEnd := if chosen choices "z" then '\x00' else '\n' }

/-- Write some octets or fields of each line. -/
def run : Action := fun args =>
  withOptions spec args fun choices files => do
    match request choices with
    | .error why =>
      complain "cut" why
      hint "cut"
      return 1
    | .ok q => forEachInput "cut" files fun _ cs => Run.write (q.written cs)

end BulkSuppress.Shell.Utility.Cut

namespace BulkSuppress.Shell.Utility.Paste

/-! ## Lines side by side -/

/-- The letters behind a backslash that stand for other octets. -/
def escapes : List (Char × Char) :=
  [('b', '\x08'), ('f', '\x0c'), ('n', '\n'), ('r', '\r'), ('t', '\t'), ('v', '\x0b')]

/-- The delimiters that a text lists, or nothing if it ends in a lone backslash. -/
def delimiters? : Octets → Option (List Octets)
  | [] => some []
  | ['\\'] => none
  | '\\' :: '0' :: rest => (delimiters? rest).map ([] :: ·)
  | '\\' :: c :: rest => (delimiters? rest).map ([(escapes.lookup c).getD c] :: ·)
  | c :: rest => (delimiters? rest).map ([c] :: ·)

/-- Parts with the delimiters between them, taken in turn. -/
def joined (delimiters : List Octets) (parts : List Octets) : Octets :=
  (parts.mapIdx fun i part =>
    (if i = 0 then [] else (delimiters[(i - 1) % max 1 delimiters.length]?).getD []) ++
      part).flatten

/-- The lines of a text. -/
def linesOf (lineEnd : Char) (cs : Octets) : List Octets :=
  let pieces := Text.pieces lineEnd cs
  if pieces.getLast? = some [] then pieces.dropLast else pieces

/-- Write lines of files beside each other. -/
def run : Action := fun args =>
  withOptions { name := "paste", letters := "d:sz"
                longs := [("serial", 's'), ("delimiters", 'd'), ("zero-terminated", 'z')] } args
    fun choices files => do
    let listed := (valueOf? choices "d").getD ['\t']
    match delimiters? listed with
    | none =>
      complain "paste" ("delimiter list ends with an unescaped backslash: ".toList ++ listed)
      return 1
    | some delimiters =>
      let lineEnd := if chosen choices "z" then '\x00' else '\n'
      let serial := chosen choices "s"
      let files := if files.isEmpty then [['-']] else files
      let shares := files.count ['-']
      let mut input : List Octets := []
      let mut hasRead := false
      let mut columns : List (List Octets) := []
      let mut taken := 0
      let mut status := 0
      for file in files do
        if file = ['-'] then
          if !hasRead then
            input := linesOf lineEnd (← Run.readAll)
            hasRead := true
          if serial then
            columns := columns ++ [input]
            input := []
          else
            let place := taken
            let own := (input.mapIdx fun i l => (i, l)).filter fun x => x.1 % shares = place
            columns := columns ++ [own.map (·.2)]
            taken := taken + 1
        else
          match ← contentOf file with
          | .ok cs => columns := columns ++ [linesOf lineEnd cs]
          | .error e =>
            complainAbout "paste" (shownName file) e
            status := 1
            if e = .isDirectory then columns := columns ++ [[]]
            else if !serial then return 1
      if serial then
        for column in columns do Run.write (joined delimiters column ++ [lineEnd])
      else
        let height := columns.foldl (fun most column => max most column.length) 0
        for i in List.range height do
          let row := columns.map fun column => column[i]?.getD []
          Run.write (joined delimiters row ++ [lineEnd])
      return status

end BulkSuppress.Shell.Utility.Paste
