import BulkSuppress.Shell.Utility.Output

/-
  Octets in place of others. A set of octets is a list of elements: single octets, ranges, classes
  and repetitions. The two case classes stand for each other as a whole; in all other cases the
  octets of the first set are paired with those of the second one in order.
-/

namespace BulkSuppress.Shell.Utility.Translate

/-! ## Sets -/

/-- An element of a set. -/
inductive Element where
  | one (c : Char)
  | range (first last : Char)
  | named (name : Octets)
  | equal (c : Char)
  /-- As many as are needed if there is no number. -/
  | repeated (c : Char) (count : Option Nat)
deriving DecidableEq, Repr

/-- The names of the classes. -/
def classNames : List String :=
  ["alnum", "alpha", "blank", "cntrl", "digit", "graph", "lower", "print", "punct", "space",
    "upper", "xdigit"]

/-- The octets of a class, in order. -/
def classOctets (name : Octets) : Octets :=
  ((List.range 256).map Char.ofNat).filter (isInClass (String.ofList name))

/-- A class for one case of letters. -/
def isCase (name : Octets) : Bool := name = "upper".toList || name = "lower".toList

/-- The octets of an element; a repetition without a number has so many. -/
def Element.octets (filling : Nat) : Element → Octets
  | .one c | .equal c => [c]
  | .range first last =>
    (List.range (last.toNat + 1 - first.toNat)).map fun i => Char.ofNat (first.toNat + i)
  | .named name => classOctets name
  | .repeated c count => List.replicate (count.getD filling) c

/-- The octets of elements. -/
def octetsOf (filling : Nat) (es : List Element) : Octets := es.flatMap (Element.octets filling)

/-- The element is a repetition without a number. -/
def Element.isFilling : Element → Bool
  | .repeated _ none => true
  | _ => false

/-! ## Reading -/

/-- What is read: the octets, with whether each stood behind a backslash, and warnings. -/
structure Unescaped where
  octets : List Marked
  warnings : List Octets := []

/-- The letters behind a backslash that stand for other octets. -/
def escaped (c : Char) : Char :=
  ((escapeLetters.find? fun e => e.2 = c).map (·.1)).getD c

/-- The octets of a text with backslashes taken out. -/
def unescape (cs : Octets) : Unescaped :=
  match cs with
  | [] => ⟨[], []⟩
  | '\\' :: [] =>
    ⟨[('\\', false)],
      ["warning: an unescaped backslash at end of string is not portable".toList]⟩
  | '\\' :: c :: rest =>
    let digits := ((c :: rest).take 3).takeWhile fun d => (digitIn? 8 d).isSome
    if digits.isEmpty then
      let r := unescape rest
      { r with octets := (escaped c, true) :: r.octets }
    else if numberIn 8 digits < 256 then
      let r := unescape (rest.drop (digits.length - 1))
      { r with octets := (Char.ofNat (numberIn 8 digits), true) :: r.octets }
    else
      let r := unescape (rest.drop 1)
      let two := digits.take 2
      let warning : Octets := "warning: the ambiguous octal escape \\".toList ++ digits ++
        " is being\n\tinterpreted as the 2-byte sequence \\0".toList ++ two ++ ", ".toList ++
        digits.drop 2
      { octets := (Char.ofNat (numberIn 8 two), true) :: r.octets
        warnings := warning :: r.warnings }
  | c :: rest =>
    let r := unescape rest
    { r with octets := (c, false) :: r.octets }
termination_by cs.length
decreasing_by all_goals simp only [List.length_drop, List.length_cons]; omega

/-- Octets without a sign that ends a class, and what is behind the sign. -/
def untilClosing (mark : Char) : List Marked → Option (Octets × List Marked)
  | (c, q) :: (d, p) :: rest =>
    if c = mark && !q && d = ']' && !p then some ([], rest)
    else (untilClosing mark ((d, p) :: rest)).map fun r => (c :: r.1, r.2)
  | _ => none

/-- A star, digits and a closing bracket are next. -/
def looksRepeated (cs : List Marked) : Bool :=
  match cs with
  | ('*', false) :: rest => (rest.dropWhile fun m => isDigit m.1).head? = some (']', false)
  | _ => false

/-- What a repetition can be read as. -/
inductive Repetition where
  | none
  | found (e : Element) (rest : List Marked)
  | invalid (digits : Octets)

/-- The repetition that a text behind an opening bracket begins with. -/
def repetition (cs : List Marked) : Repetition :=
  match cs with
  | (c, _) :: ('*', false) :: more =>
    let inside := more.takeWhile fun m => m.1 ≠ ']' && !m.2
    match more.drop inside.length with
    | (']', false) :: rest =>
      let digits := inside.map (·.1)
      let base := if digits.head? = some '0' then 8 else 10
      let n := numberIn base digits
      if digits.isEmpty then .found (.repeated c Option.none) rest
      else if digits.all (fun d => (digitIn? base d).isSome) && n ≤ 9223372036854775806 then
        .found (.repeated c (if n = 0 then Option.none else some n)) rest
      else .invalid digits
    | _ => .none
  | _ => .none

/-- An octet as it is shown, where it can be seen. -/
def shown (c : Char) : Octets := (unseen? c).getD (if c = '\\' then "\\\\".toList else [c])

/-- The class, or the octets that are the same, between brackets and marks. -/
def bracketed (mark : Char) (name : Octets) : Except Octets Element :=
  if mark = ':' then
    if name.isEmpty then .error "missing character class name '[::]'".toList
    else if classNames.contains (String.ofList name) then .ok (.named name)
    else .error ("invalid character class ".toList ++ quoted (name.flatMap shown))
  else match name with
    | [] => .error "missing equivalence class character '[==]'".toList
    | [c] => .ok (.equal c)
    | name => .error (name.flatMap shown ++
        ": equivalence class operand must be a single character".toList)

/-- The elements of a set. -/
def elements : Nat → List Marked → Except Octets (List Element)
  | 0, _ => .ok []
  | n + 1, cs => do
    let plain (cs : List Marked) : Except Octets (List Element) := do
      match cs with
      | (first, _) :: ('-', false) :: (last, _) :: rest =>
        if last < first then
          throw ("range-endpoints of '".toList ++ shown first ++ ['-'] ++ shown last ++
            "' are in reverse collating sequence order".toList)
        return .range first last :: (← elements n rest)
      | (c, _) :: rest => return .one c :: (← elements n rest)
      | [] => return []
    if cs.length < 3 then return cs.map fun m => .one m.1
    let repeatedOr (cs : List Marked) : Except Octets (List Element) := do
      match repetition (cs.drop 1) with
      | .found e rest => return e :: (← elements n rest)
      | .invalid digits =>
        throw ("invalid repeat count ".toList ++ quoted digits ++ " in [c*n] construct".toList)
      | .none => plain cs
    match cs with
    | ('[', false) :: (mark, false) :: inside =>
      if mark = ':' || mark = '=' then
        match untilClosing mark inside with
        | some (name, rest) =>
          match bracketed mark name with
          | .ok e => return e :: (← elements n rest)
          | .error why =>
            if !name.isEmpty && looksRepeated inside then repeatedOr cs else throw why
        | none => repeatedOr cs
      else repeatedOr cs
    | ('[', false) :: _ => repeatedOr cs
    | _ => plain cs

/-! ## Pairs -/

/-- What each octet becomes: the last pair of an octet counts. -/
abbrev Table := List (Char × Char)

/-- The set of all octets that are not in another one. -/
def others (cs : Octets) : Octets := ((List.range 256).map Char.ofNat).filter (!cs.contains ·)

/-- The octets of elements, and what starts with an octet: a class for one case of letters. -/
def withCases (filling : Nat) (es : List Element) : List (Char × Option Octets) :=
  es.flatMap fun e =>
    let cs := e.octets filling
    match e with
    | .named name =>
      cs.mapIdx fun i c => (c, if i = 0 && isCase name then some name else none)
    | _ => cs.map fun c => (c, none)

/-- The pairs of two lists, and what is left of both; nothing if a class for one case of letters
stands where there is none in the first list. -/
def pairs : Nat → List (Char × Option Octets) → List (Char × Option Octets) →
    Option (Table × List (Char × Option Octets) × List (Char × Option Octets))
  | 0, xs, ys => some ([], xs, ys)
  | _ + 1, [], ys => some ([], [], ys)
  | _ + 1, xs, [] => some ([], xs, [])
  | n + 1, (x, caseX) :: xs, (y, caseY) :: ys =>
    match caseY, caseX with
    | some _, none => none
    | some _, some _ =>
      let letters := ((x, caseX) :: xs).take 26 |>.map (·.1)
      let given := ((y, caseY) :: ys).take 26 |>.map (·.1)
      (pairs n (xs.drop 25) (ys.drop 25)).map fun r => (letters.zip given ++ r.1, r.2)
    | none, _ => (pairs n xs ys).map fun r => ((x, y) :: r.1, r.2)

/-- How octets are changed. -/
structure Request where
  complements : Bool := false
  deletes : Bool := false
  squeezes : Bool := false
  /-- Octets of the first set without a partner stay. -/
  truncates : Bool := false

/-- The number of octets of elements without those repetitions that fill. -/
def size (es : List Element) : Nat := (octetsOf 0 es).length

/-- The table that two sets make. -/
def Request.table (q : Request) (first second : List Element) : Except Octets Table := do
  let taken := if q.complements then (others (octetsOf 0 first)).map fun c => (c, none)
    else withCases 0 first
  let filling := taken.length - size second
  if 1 < (second.filter Element.isFilling).length then
    throw "only one [c*] repeat construct may appear in string2".toList
  if second.any (· matches .equal _) then
    throw "[=c=] expressions may not appear in string2 when translating".toList
  let isRestricted (e : Element) : Bool := match e with
    | .named name => !isCase name
    | _ => false
  if second.any isRestricted then
    throw ("when translating, the only character classes that may appear in\n" ++
      "string2 are 'upper' and 'lower'").toList
  let given := withCases filling second
  let given := if q.complements then given.map fun x => (x.1, none) else given
  match pairs (taken.length + given.length + 1) taken given with
  | none => throw "misaligned [:upper:] and/or [:lower:] construct".toList
  | some (table, left, _) =>
    if left.isEmpty || q.truncates then return table
    match second.getLast?, given.getLast? with
    | none, _ | _, none => throw "when not truncating set1, string2 must be non-empty".toList
    | some (.named _), _ =>
      throw ("when translating with string1 longer than string2,\n" ++
        "the latter string must not end with a character class").toList
    | some _, some (last, _) =>
      if q.complements && first.any (· matches .named _) &&
          given.any fun x => x.1 ≠ last then
        throw ("when translating with complemented character classes,\n" ++
          "string2 must map all characters in the domain to one").toList
      return table ++ left.map fun x => (x.1, last)

/-- Octets with only one of those that follow each other and are the same, as far as `isIn`
tells that they are to be squeezed. -/
def squeezed (isIn : Char → Bool) (cs : Octets) : Octets :=
  (cs.foldl (fun acc c => if acc.head? = some c && isIn c then acc else c :: acc) []).reverse

/-- What a request makes of octets, or why it makes no sense. -/
def Request.changes (q : Request) (first : List Element) (second : Option (List Element)) :
    Except Octets (Octets → Octets) := do
  if first.any Element.isFilling then
    throw "the [c*] repeat construct may not appear in string1".toList
  let listed := octetsOf 0 first
  let taken := if q.complements then others listed else listed
  match second, q.deletes with
  | none, true => return fun cs => cs.filter (!taken.contains ·)
  | none, false => return squeezed taken.contains
  | some second, true =>
    if second.any Element.isFilling then
      throw "the [c*] construct may appear in string2 only when translating".toList
    let kept := octetsOf 0 second
    return fun cs => squeezed kept.contains (cs.filter (!taken.contains ·))
  | some second, false =>
    let table := (← q.table first second).reverse
    let filling := taken.length - size second
    let kept := octetsOf filling second
    let changed (cs : Octets) : Octets := cs.map fun c => (table.lookup c).getD c
    return if q.squeezes then squeezed kept.contains ∘ changed else changed

/-! ## The utility -/

/-- What is wrong with the number of sets: a complaint and a further line. -/
def Request.countFault? (q : Request) (sets : List Octets) : Option (Octets × Option String) :=
  let least := if q.deletes == q.squeezes then 2 else 1
  let most := if q.deletes && !q.squeezes then 1 else 2
  match sets with
  | [] => some ("missing operand".toList, none)
  | first :: more =>
    if sets.length < least then
      some ("missing operand after ".toList ++ quoted (more.getLast?.getD first),
        some (if q.squeezes then
          "Two strings must be given when both deleting and squeezing repeats."
        else "Two strings must be given when translating."))
    else
      (sets[most]?).map fun extra =>
        ("extra operand ".toList ++ quoted extra,
          if sets.length = 2 then
            some "Only one string may be given when deleting without squeezing repeats."
          else none)

/-- The elements of a set; there are warnings or a complaint. -/
def elementsOf (cs : Octets) : Run (Option (List Element)) := do
  let text := unescape cs
  for w in text.warnings do complain "tr" w
  match elements (text.octets.length + 1) text.octets with
  | .ok es => return some es
  | .error why =>
    complain "tr" why
    return none

/-- Write the input with octets in place of others. -/
def run : Action := fun args =>
  withOptions { name := "tr", letters := "AcCdst", inFront := true
                longs := [("complement", 'c'), ("delete", 'd'), ("squeeze-repeats", 's'),
                  ("truncate-set1", 't')] } args fun choices sets => do
    let q : Request := {
      complements := chosen choices "cC"
      deletes := chosen choices "d"
      squeezes := chosen choices "s"
      truncates := chosen choices "t" }
    match q.countFault? sets with
    | some (why, more) =>
      complain "tr" why
      for l in more do Run.complain l.toList
      hint "tr"
      return 1
    | none =>
      match ← elementsOf (sets.head?.getD []) with
      | none => return 1
      | some first =>
        let second ← match sets[1]? with
          | none => pure (some none)
          | some cs => do pure ((← elementsOf cs).map some)
        match second with
        | none => return 1
        | some second =>
          match q.changes first second with
          | .error why =>
            complain "tr" why
            return 1
          | .ok change =>
            Run.write (change (← Run.readAll))
            return 0

end BulkSuppress.Shell.Utility.Translate
