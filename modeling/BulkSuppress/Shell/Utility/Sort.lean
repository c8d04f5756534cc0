import BulkSuppress.Shell.Numeral
import BulkSuppress.Shell.Pattern
import BulkSuppress.Shell.Utility.Output
import BulkSuppress.Shell.Version

/-
  Sorting lines. A key is a part of a line with a way of comparing; lines that are the same by all
  keys are compared as a whole in the end, unless that is not wanted.
-/

namespace BulkSuppress.Shell.Utility.Sort

/-! ## Keys -/

/-- How parts of lines are compared. -/
structure Manner where
  /-- Blanks in front of the part do not count. -/
  skipsBlanks : Bool := false
  /-- Blanks in front of the end of the part do not count. -/
  skipsEndBlanks : Bool := false
  /-- Only blanks, letters and digits count. -/
  dictionary : Bool := false
  foldsCase : Bool := false
  /-- As numbers with exponents. -/
  general : Bool := false
  /-- As numbers with units. -/
  human : Bool := false
  /-- Only octets that can be seen count. -/
  printing : Bool := false
  month : Bool := false
  numeric : Bool := false
  random : Bool := false
  backward : Bool := false
  version : Bool := false
deriving DecidableEq, Repr

/-- The manner with what a letter asks for. -/
def Manner.withLetter (m : Manner) (c : Char) : Option Manner :=
  match c with
  | 'd' => some { m with dictionary := true }
  | 'f' => some { m with foldsCase := true }
  | 'g' => some { m with general := true }
  | 'h' => some { m with human := true }
  | 'i' => some { m with printing := true }
  | 'M' => some { m with month := true }
  | 'n' => some { m with numeric := true }
  | 'R' => some { m with random := true }
  | 'r' => some { m with backward := true }
  | 'V' => some { m with version := true }
  | _ => none

/-- The letters that cannot be asked for together, if there are such. -/
def Manner.conflict? (m : Manner) : Option Octets :=
  let count := ([m.numeric, m.general, m.human, m.month,
    m.version || m.random || m.dictionary || m.printing].filter id).length
  if count ≤ 1 then none
  else
    let letters : List (Bool × Char) := [(m.dictionary, 'd'), (m.foldsCase, 'f'), (m.general, 'g'),
      (m.human, 'h'), (m.printing && !m.dictionary, 'i'), (m.month, 'M'), (m.numeric, 'n'),
      (m.random, 'R'), (m.version, 'V')]
    some (letters.filterMap fun x => if x.1 then some x.2 else none)

/-- A part of a line: fields and octets in front of it, and the same up to its end. -/
structure Key where
  fields : Nat := 0
  octets : Nat := 0
  /-- The last field that it has something of, and the octets of it; all of it for none. -/
  last : Option (Nat × Nat) := none
  manner : Manner := {}

/-- An octet that parts fields. -/
def isBlank (c : Char) : Bool := c = ' ' || c = '\t' || c = '\n'

/-- What is behind some fields of a line; a separator behind the last one stays if `keeps`. -/
def behindFields (separator : Option Char) (keeps : Bool) : Nat → Octets → Octets
  | 0, cs => cs
  | n + 1, cs =>
    match separator with
    | some c =>
      let rest := cs.dropWhile (· ≠ c)
      behindFields separator keeps n (if keeps && n = 0 then rest else rest.drop 1)
    | none =>
      behindFields separator keeps n ((cs.dropWhile isBlank).dropWhile fun c => !isBlank c)

/-- The part of a line that a key is about. -/
def Key.part (k : Key) (separator : Option Char) (line : Octets) : Octets :=
  let start := behindFields separator false k.fields line
  let start := if k.manner.skipsBlanks then start.dropWhile isBlank else start
  let start := start.drop k.octets
  match k.last with
  | none => start
  | some (fields, octets) =>
    let behind := behindFields separator (octets = 0) (if octets = 0 then fields + 1 else fields) line
    let behind := if octets = 0 then behind
      else (if k.manner.skipsEndBlanks then behind.dropWhile isBlank else behind).drop octets
    start.take (start.length - behind.length)

/-! ## Comparing -/

/-- The order of octets. -/
def byOctets (a b : Octets) : Ordering :=
  List.compareLex (fun c d => compare c.toNat d.toNat) a b

/-- The number at the front of a text: its sign, the digits in front of its point, and the rest. -/
def leading (cs : Octets) : Bool × Octets × Octets :=
  let (negative, digits) := match cs with
    | '-' :: ds => (true, ds)
    | ds => (false, ds)
  let whole := digits.takeWhile isDigit
  let fraction := match digits.drop whole.length with
    | '.' :: ds => ds.takeWhile isDigit
    | _ => []
  (negative, whole, fraction)

/-- The order of two numbers with a sign. -/
def byNumber (a b : Octets) : Ordering :=
  let (negativeA, wholeA, fractionA) := leading (a.dropWhile isBlank)
  let (negativeB, wholeB, fractionB) := leading (b.dropWhile isBlank)
  let places := max fractionA.length fractionB.length
  let value (negative : Bool) (whole fraction : Octets) : Int :=
    let n : Int := numberIn 10 (whole ++ fraction ++ List.replicate (places - fraction.length) '0')
    if negative then -n else n
  compare (value negativeA wholeA fractionA) (value negativeB wholeB fractionB)

/-- The units of numbers, smaller ones first. -/
def units : List Char := "KMGTPEZYRQ".toList

/-- The rank of the unit of a number; one of a negative number has a negative rank. -/
def unitRank (cs : Octets) : Int :=
  let cs := cs.dropWhile isBlank
  let (negative, whole, fraction) := leading cs
  if (whole ++ fraction).all (· = '0') then 0
  else
    let body := if negative then cs.drop 1 else cs
    let point := if (body.drop whole.length).head? = some '.' then 1 + fraction.length else 0
    let unit := (body.drop (whole.length + point)).head?
    let rank : Int := match unit with
      | some 'k' => 1
      | some c => (units.findIdx? (· = c)).elim 0 fun i => (i + 1 : Int)
      | none => 0
    if negative then -rank else rank

/-- The rank of a number among those of other kinds, and the number itself. -/
def generalRank (cs : Octets) : Nat × Int × Nat :=
  match Numeral.read cs with
  | (_, 0) => (0, 0, 1)
  | (.notANumber _, _) => (1, 0, 1)
  | (.infinite true, _) => (2, 0, 1)
  | (.finite negative num den, _) => (3, if negative then -(num : Int) else num, den)
  | (.infinite false, _) => (4, 0, 1)

/-- The order of two numbers with exponents; what is no number comes first. -/
def byGeneral (a b : Octets) : Ordering :=
  let (kindA, numA, denA) := generalRank a
  let (kindB, numB, denB) := generalRank b
  (compare kindA kindB).then (compare (numA * denB) (numB * denA))

/-- The names of the months. -/
def months : List String :=
  ["JAN", "FEB", "MAR", "APR", "MAY", "JUN", "JUL", "AUG", "SEP", "OCT", "NOV", "DEC"]

/-- The number of the month that a text starts with. -/
def monthOf (cs : Octets) : Nat :=
  let name := ((cs.dropWhile isBlank).take 3).map Char.toUpper
  (months.findIdx? fun m => m.toList = name).elim 0 (· + 1)

/-- The order of two parts of lines. -/
def Manner.compare (m : Manner) (a b : Octets) : Ordering :=
  let o :=
    if m.numeric then byNumber a b
    else if m.general then byGeneral a b
    else if m.human then (Ord.compare (unitRank a) (unitRank b)).then (byNumber a b)
    else if m.month then Ord.compare (monthOf a) (monthOf b)
    else
      let kept (cs : Octets) : Octets := cs.filter fun c =>
        if m.dictionary then isBlank c || isLetter c || isDigit c
        else if m.printing then c = ' ' || isGraphic c
        else true
      let folded (cs : Octets) : Octets := if m.foldsCase then cs.map Char.toUpper else cs
      let a := folded (kept a)
      let b := folded (kept b)
      if m.version then Version.order a b else byOctets a b
  if m.backward then o.swap else o

/-- How lines are sorted. -/
structure Request where
  keys : List Key
  separator : Option Char := none
  /-- Of lines that are the same by their keys only the first one stays. -/
  unique : Bool := false
  /-- Lines that are the same by their keys stay in order. -/
  stable : Bool := false
  /-- The last comparison is turned round. -/
  backward : Bool := false

/-- The order of two lines by their keys alone. -/
def Request.byKeys (q : Request) (a b : Octets) : Ordering :=
  (q.keys.findSome? fun k =>
    let o := k.manner.compare (k.part q.separator a) (k.part q.separator b)
    if o = .eq then none else some o).getD .eq

/-- The order of two lines. -/
def Request.compare (q : Request) (a b : Octets) : Ordering :=
  let o := q.byKeys a b
  if o ≠ .eq || q.unique || q.stable then o
  else if q.backward then (byOctets a b).swap
  else byOctets a b

/-- Lines of which none is the same as the one before it by its keys. -/
def Request.distinct (q : Request) (lines : List Octets) : List Octets :=
  (lines.foldl
    (fun acc l => if acc.head?.any (fun x => q.byKeys x l == .eq) then acc else l :: acc) []).reverse

/-- Lines in order. -/
def Request.sorted (q : Request) (lines : List Octets) : List Octets :=
  let ordered := lines.mergeSort fun a b => q.compare a b != .gt
  if q.unique then q.distinct ordered else ordered

/-- Two lists of lines as one, in order if both of them are. -/
def Request.mergedTwo (q : Request) : Nat → List Octets → List Octets → List Octets
  | 0, a, b => a ++ b
  | n + 1, a, b =>
    match a, b with
    | [], b => b
    | a, [] => a
    | x :: xs, y :: ys =>
      if q.compare x y != .gt then x :: q.mergedTwo n xs (y :: ys)
      else y :: q.mergedTwo n (x :: xs) ys

/-- Lists of lines as one. -/
def Request.merged (q : Request) (files : List (List Octets)) : List Octets :=
  let all := files.foldl (fun a b => q.mergedTwo (a.length + b.length) a b) []
  if q.unique then q.distinct all else all

/-- The place of the first line that is out of order. -/
def Request.disorder? (q : Request) (lines : List Octets) : Option Nat :=
  (lines.zip (lines.drop 1)).findIdx? fun (a, b) =>
    q.compare a b == .gt || (q.unique && q.compare a b == .eq)

/-! ## Options -/

/-- The number at the front of the rest of the spelling of a key. -/
def keyNumber (what : String) (whole cs : Octets) : Except Octets (Nat × Octets) :=
  let digits := cs.takeWhile isDigit
  if digits.isEmpty then
    .error (what.toList ++ ": invalid count at start of ".toList ++ quoted whole)
  else .ok (numberIn 10 digits, cs.drop digits.length)

/-- The manner with what letters ask for, and what is behind these. -/
def mannerLetters (isEnd : Bool) (m : Manner) : Octets → Manner × Octets
  | [] => (m, [])
  | 'b' :: cs =>
    mannerLetters isEnd (if isEnd then { m with skipsEndBlanks := true }
      else { m with skipsBlanks := true }) cs
  | c :: cs =>
    match m.withLetter c with
    | some m => mannerLetters isEnd m cs
    | none => (m, c :: cs)

/-- The key that a text spells. -/
def key (cs : Octets) : Except Octets Key := do
  let bad {α : Type} (why : String) : Except Octets α :=
    .error (why.toList ++ ": invalid field specification ".toList ++ quoted cs)
  let (field, rest) ← keyNumber "invalid number at field start" cs cs
  if field = 0 then bad "field number is zero"
  let (octets, rest) ← match rest with
    | '.' :: more =>
      let (n, rest) ← keyNumber "invalid number after '.'" more more
      if n = 0 then bad "character offset is zero"
      pure (n - 1, rest)
    | rest => pure (0, rest)
  let (manner, rest) := mannerLetters false {} rest
  let k : Key := { fields := field - 1, octets, manner }
  match rest with
  | [] => return k
  | ',' :: more =>
    let (field, rest) ← keyNumber "invalid number after ','" more more
    if field = 0 then bad "field number is zero"
    let (octets, rest) ← match rest with
      | '.' :: more => keyNumber "invalid number after '.'" more more
      | rest => pure (0, rest)
    let (manner, rest) := mannerLetters true manner rest
    if !rest.isEmpty then bad "stray character in field spec"
    return { k with last := some (field - 1, octets), manner }
  | _ => bad "stray character in field spec"

/-- The options; those without a letter of ASCII have long names only. -/
def spec : Options where
  name := "sort"
  letters := "bdfgihMnRrVcCk:mo:sS:t:T:uzκ::π:β:φ:ζ:ρ:σ:δ"
  failure := 2
  longs := [("ignore-leading-blanks", 'b'), ("check", 'κ'), ("compress-program", 'ζ'),
    ("debug", 'δ'), ("dictionary-order", 'd'), ("ignore-case", 'f'), ("files0-from", 'φ'),
    ("general-numeric-sort", 'g'), ("ignore-nonprinting", 'i'), ("key", 'k'), ("merge", 'm'),
    ("month-sort", 'M'), ("numeric-sort", 'n'), ("human-numeric-sort", 'h'),
    ("version-sort", 'V'), ("random-sort", 'R'), ("random-source", 'ρ'), ("sort", 'σ'),
    ("output", 'o'), ("reverse", 'r'), ("stable", 's'), ("batch-size", 'β'),
    ("buffer-size", 'S'), ("field-separator", 't'), ("temporary-directory", 'T'),
    ("unique", 'u'), ("zero-terminated", 'z'), ("parallel", 'π')]

/-- The letters for ways of sorting that are named. -/
def wayNames : List (String × Char) :=
  [("general-numeric", 'g'), ("human-numeric", 'h'), ("month", 'M'), ("numeric", 'n'),
    ("random", 'R'), ("version", 'V')]

/-- The separator that a text spells. -/
def separator (cs : Octets) : Except Octets Char :=
  match cs with
  | [] => .error "empty tab".toList
  | [c] => .ok c
  | ['\\', '0'] => .ok '\x00'
  | _ => .error ("multi-character tab ".toList ++ quoted cs)

/-- The way of sorting that options ask for. -/
def request (choices : List Choice) : Except Octets Request := do
  let base := choices.foldl (fun m c =>
    if c.letter = 'b' then { m with skipsBlanks := true, skipsEndBlanks := true }
    else if c.letter = 'σ' then
      ((wayNames.lookup (String.ofList c.value)).bind m.withLetter).getD m
    else (m.withLetter c.letter).getD m) ({} : Manner)
  let mut keys : List Key := []
  let mut parted : Option Char := none
  for c in choices do
    if c.letter = 'k' then keys := keys ++ [← key c.value]
    else if c.letter = 't' then
      let sign ← separator c.value
      if parted.any (· ≠ sign) then throw "incompatible tabs".toList
      parted := some sign
  let all := if keys.isEmpty then [{ manner := base }]
    else keys.map fun k => if k.manner = {} then { k with manner := base } else k
  match all.findSome? (·.manner.conflict?) with
  | some letters => throw ("options ".toList ++ quoted ('-' :: letters) ++ " are incompatible".toList)
  | none => pure ()
  return {
    keys := all
    separator := parted
    unique := chosen choices "u"
    stable := chosen choices "s"
    backward := base.backward }

/-- The lines of a text that end with an octet. -/
def linesOf (lineEnd : Char) (cs : Octets) : List Octets :=
  if cs.isEmpty then []
  else
    let pieces := Text.pieces lineEnd cs
    if cs.getLast? = some lineEnd then pieces.dropLast else pieces

/-- Write lines in order, or tell whether they are. -/
def run : Action := fun args =>
  withOptions spec args fun choices files => do
    match request choices with
    | .error why =>
      complain "sort" why
      return 2
    | .ok q =>
      let checks := choices.filter fun c => ['c', 'C', 'κ'].contains c.letter
      let isSilent := checks.any fun c => c.letter = 'C' ||
        c.value = "quiet".toList || c.value = "silent".toList
      match checks, files with
      | _ :: _, _ :: second :: _ =>
        complain "sort" ("extra operand ".toList ++ quoted second ++
          " not allowed with -".toList ++ (if isSilent then ['C'] else ['c']))
        return 2
      | _, _ => pure ()
      let lineEnd := if chosen choices "z" then '\x00' else '\n'
      let mut inputs : List (List Octets) := []
      for file in if files.isEmpty then [['-']] else files do
        match ← contentOf file with
        | .ok cs => inputs := inputs ++ [linesOf lineEnd cs]
        | .error e =>
          let what := if e = .isDirectory then "read failed: "
            else if checks.isEmpty then "cannot read: " else "open failed: "
          complain "sort" (what.toList ++ shownName file ++ ": ".toList ++ (reasonOf e).toList)
          return 2
      if !checks.isEmpty then
        let lines := inputs.flatten
        match q.disorder? lines with
        | none => return 0
        | some i =>
          if !isSilent then
            complain "sort" ((files.head?.getD ['-']) ++ ":".toList ++ (toString (i + 2)).toList ++
              ": disorder: ".toList ++ (lines[i + 1]?).getD [])
          return 1
      let sorted := if chosen choices "m" then q.merged inputs else q.sorted inputs.flatten
      let text := sorted.flatMap fun l => l ++ [lineEnd]
      match valueOf? choices "o" with
      | none =>
        Run.write text
        return 0
      | some file =>
        match (← get).writeFile ⟨Octets.toText file⟩ (Octets.toBytes text) with
        | .ok m =>
          set m
          return 0
        | .error e =>
          complain "sort" ("open failed: ".toList ++ shownName file ++ ": ".toList ++ (reasonOf e).toList)
          return 2

end BulkSuppress.Shell.Utility.Sort
