import BulkSuppress.Shell.Pattern

/-
  Regular expressions of the system's utilities. Of all matches the leftmost one counts, and of
  those the longest. `ends` gives every place where a match can end; what the groups of a match
  hold is found afterwards.
-/

namespace BulkSuppress.Shell

/-- A place between octets. -/
inductive Edge where
  | lineStart
  | lineEnd
  /-- At the front of all that is matched against. -/
  | textStart
  | textEnd
  | wordStart
  | wordEnd
  /-- At one end of a word. -/
  | word
  /-- At no end of a word. -/
  | noWord
deriving DecidableEq, Repr

/-- A regular expression. -/
inductive Regex where
  | empty
  | char (c : Char)
  | any
  | oneOf (negated : Bool) (members : List Member)
  | edge (e : Edge)
  | seq (a b : Regex)
  | alt (a b : Regex)
  /-- As often as `least`, up to `most` if there is such a bound. -/
  | times (a : Regex) (least : Nat) (most : Option Nat)
  | group (number : Nat) (a : Regex)
  /-- What a group holds. -/
  | same (number : Nat)
deriving DecidableEq, Repr, Inhabited

namespace Regex

/-- The highest number of a group. -/
def groupCount : Regex → Nat
  | .seq a b | .alt a b => max a.groupCount b.groupCount
  | .times a _ _ => a.groupCount
  | .group n a => max n a.groupCount
  | _ => 0

/-- The octets of words. -/
def isWordChar (c : Char) : Bool := isNameChar c

/-! ## Matching -/

/-- The octets that are matched against. -/
structure Subject where
  octets : Array Char
  /-- The case of letters does not count. -/
  foldsCase : Bool := false
  /-- Each line in the octets has its own start and end, and only its end itself matches that. -/
  byLine : Bool := false

/-- The octet with its case left out of account, if it is. -/
def Subject.folded (s : Subject) (c : Char) : Char := if s.foldsCase then c.toLower else c

/-- A word octet stands at a place. -/
def Subject.isWordAt (s : Subject) (i : Nat) : Bool := s.octets[i]?.any isWordChar

/-- The place is an edge of some kind. -/
def Subject.isEdge (s : Subject) (i : Nat) : Edge → Bool
  | .lineStart => i = 0 || (s.byLine && s.octets[i - 1]? = some '\n')
  | .lineEnd => i = s.octets.size || (s.byLine && s.octets[i]? = some '\n')
  | .textStart => i = 0
  | .textEnd => i = s.octets.size
  | .wordStart => s.isWordAt i && (i = 0 || !s.isWordAt (i - 1))
  | .wordEnd => 0 < i && s.isWordAt (i - 1) && !s.isWordAt i
  | .word => (0 < i && s.isWordAt (i - 1)) != s.isWordAt i
  | .noWord => (0 < i && s.isWordAt (i - 1)) == s.isWordAt i

/-- What groups hold, by number: where it starts and ends. -/
abbrev Groups := List (Nat × Nat × Nat)

/-- Places without duplicates. -/
def joined (xs ys : List Nat) : List Nat :=
  ys.foldl (fun acc y => if acc.contains y then acc else acc ++ [y]) xs

section

variable (s : Subject)

/-- The set has the octet, or its other case if that does not count. -/
def isIn (negated : Bool) (members : List Member) (c : Char) : Bool :=
  let has (c : Char) : Bool := members.any (·.has c)
  (has c || (s.foldsCase && (has c.toLower || has c.toUpper))) != negated &&
    !(s.byLine && negated && c = '\n')

/-- The places that a step leads to, again and again. -/
def closure (step : Nat → List Nat) : Nat → List Nat → List Nat → List Nat
  | 0, _, known => known
  | n + 1, fresh, known =>
    let found := (fresh.flatMap step).foldl (fun acc i => joined acc [i]) []
    let new := found.filter fun i => !known.contains i
    if new.isEmpty then known else closure step n new (joined known new)

/-- The places after so many steps. -/
def stepped (step : Nat → List Nat) : Nat → List Nat → List Nat
  | 0, is => is
  | n + 1, is => stepped step n (joined [] (is.flatMap step))

/-- The places after at most so many steps. -/
def steppedUpTo (step : Nat → List Nat) : Nat → List Nat → List Nat
  | 0, is => is
  | n + 1, is => joined is (steppedUpTo step n (joined [] (is.flatMap step)))

/-- The octets between two places, as they count. -/
def between (i j : Nat) : List Char := (s.octets.extract i j).toList.map s.folded

/-- Where a match that starts at a place can end, given what groups hold. -/
def ends (held : Groups) : Regex → Nat → List Nat
  | .empty, i => [i]
  | .char c, i =>
    match s.octets[i]? with
    | some d => if s.folded c = s.folded d then [i + 1] else []
    | none => []
  | .any, i =>
    if i < s.octets.size && !(s.byLine && s.octets[i]? = some '\n') then [i + 1] else []
  | .oneOf negated members, i =>
    match s.octets[i]? with
    | some d => if isIn s negated members d then [i + 1] else []
    | none => []
  | .edge e, i => if s.isEdge i e then [i] else []
  | .seq a b, i => joined [] ((ends held a i).flatMap (ends held b))
  | .alt a b, i => joined (ends held a i) (ends held b i)
  | .times a least most, i =>
    let start := stepped (ends held a) least [i]
    match most with
    | some most => steppedUpTo (ends held a) (most - least) start
    | none => closure (ends held a) (s.octets.size + 1) start start
  | .group _ a, i => ends held a i
  | .same n, i =>
    match held.lookup n with
    | some (first, behind) =>
      let cs := between s first behind
      if between s i (i + cs.length) = cs then [i + cs.length] else []
    | none => []

/-- The larger places first. -/
def descending (is : List Nat) : List Nat := is.mergeSort fun a b => b ≤ a

/-- The first result that there is. -/
def firstOf (f : Nat → Option Groups) : List Nat → Option Groups
  | [] => none
  | i :: is => (f i).orElse fun _ => firstOf f is

/-- What groups hold when a match goes from one place to another, if it can. -/
def groupsOf (held : Groups) : Regex → Nat → Nat → Option Groups
  | .seq a b, i, j =>
    firstOf (fun k => (groupsOf held a i k).bind fun inner => groupsOf inner b k j)
      (descending (ends s held a i))
  | .alt a b, i, j => (groupsOf held a i j).orElse fun _ => groupsOf held b i j
  | .times a least most, i, j =>
    let again := repetition (fun held i j => groupsOf held a i j) (ends s held a) least most
      (s.octets.size + least + 1) held i j
    again
  | .group n a, i, j => (groupsOf held a i j).map fun inner => (n, i, j) :: inner
  | r, i, j => if (ends s held r i).contains j then some held else none
where
  /-- What groups hold behind repetitions. -/
  repetition (one : Groups → Nat → Nat → Option Groups) (step : Nat → List Nat) (least : Nat)
      (most : Option Nat) : Nat → Groups → Nat → Nat → Option Groups
    | 0, _, _, _ => none
    | n + 1, held, i, j =>
      if i = j && least = 0 then some held
      else if most = some 0 then none
      else
        firstOf (fun k =>
            if k = i && least = 0 then none
            else (one held i k).bind fun inner =>
              repetition one step (least - 1) (most.map (· - 1)) n inner k j)
          (descending (step i))

/-- The regular expression looks back at groups. -/
def looksBack : Regex → Bool
  | .same _ => true
  | .seq a b | .alt a b => looksBack a || looksBack b
  | .times a _ _ | .group _ a => looksBack a
  | _ => false

/-- The longest match that starts at a place: where it ends, and what groups hold. -/
def matchAt (r : Regex) (i : Nat) : Option (Nat × Groups) :=
  if looksBack r then
    let candidates := (List.range (s.octets.size + 1 - i)).reverse.map (· + i)
    candidates.findSome? fun j => (groupsOf s [] r i j).map fun held => (j, held)
  else
    match (ends s [] r i).max? with
    | some j => some (j, (groupsOf s [] r i j).getD [])
    | none => none

/-- The first match from a place on: where it starts and ends, and what groups hold. -/
def find? (r : Regex) (start : Nat) : Option (Nat × Nat × Groups) :=
  ((List.range (s.octets.size + 1 - start)).map (· + start)).findSome? fun i =>
    (matchAt s r i).map fun found => (i, found)

/-- A match is somewhere in the subject. -/
def occurs (r : Regex) : Bool :=
  if looksBack r then (find? s r 0).isSome
  else (List.range (s.octets.size + 1)).any fun i => !(ends s [] r i).isEmpty

end

end Regex
end BulkSuppress.Shell
