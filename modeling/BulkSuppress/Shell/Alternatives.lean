import BulkSuppress.Shell.Syntax

/-
  Words that stand for several words. Braces hold alternatives with commas between them, or the
  first and the last item of a sequence; what stands around them is part of each of the words.
  Only braces and commas without quotes count.
-/

namespace BulkSuppress.Shell.Alternatives

/-- A character without quotes, or another part of a word. -/
inductive Atom where
  | char (c : Char)
  | part (p : Part)

/-- The atom is a character. -/
def Atom.is (a : Atom) (c : Char) : Bool :=
  match a with
  | .char d => c = d
  | .part _ => false

/-- The atoms of a word. -/
def atoms : Word → List Atom
  | [] => []
  | .text cs false :: rest => cs.map .char ++ atoms rest
  | p :: rest => .part p :: atoms rest

/-- The word of atoms. -/
def ofAtoms : List Atom → Word
  | [] => []
  | .part p :: rest => p :: ofAtoms rest
  | .char c :: rest =>
    match ofAtoms rest with
    | .text cs false :: more => .text (c :: cs) false :: more
    | more => .text [c] false :: more

/--
The atoms up to the brace that closes an open one, and what is behind it. A closing brace only
counts behind a comma or two dots; `level` is the number of further open braces.
-/
def closed? (level : Nat) (counts : Bool) : List Atom → Option (List Atom × List Atom)
  | [] => none
  | a :: rest =>
    if a.is '\x7d' && level = 0 && counts then some ([], rest)
    else
      let isDots := a.is '.' && (rest.head?.any (·.is '.')) && !(rest.tail.head?.any (·.is '\x7d'))
      let counts := counts || (level = 0 && (a.is ',' || isDots))
      let level := if a.is '\x7b' then level + 1 else if a.is '\x7d' then level - 1 else level
      (closed? level counts rest).map fun r => (a :: r.1, r.2)

/-- What is in front of the first braces that can stand for something, in them, and behind them. -/
def firstBraces? : List Atom → Option (List Atom × List Atom × List Atom)
  | [] => none
  | a :: rest =>
    let here := if a.is '\x7b' && !(rest.head?.any (·.is '\x7d')) then closed? 0 false rest else none
    match here with
    | some (inside, behind) => some ([], inside, behind)
    | none => (firstBraces? rest).map fun r => (a :: r.1, r.2)

/-- The pieces between the commas that are not inside braces. -/
def betweenCommas (level : Nat) : List Atom → List (List Atom)
  | [] => [[]]
  | a :: rest =>
    if a.is ',' && level = 0 then [] :: betweenCommas level rest
    else
      let level := if a.is '\x7b' then level + 1 else if a.is '\x7d' then level - 1 else level
      match betweenCommas level rest with
      | piece :: more => (a :: piece) :: more
      | [] => [[a]]

/-! ## Sequences -/

/-- The characters of atoms that are nothing else. -/
def chars? : List Atom → Option Octets
  | [] => some []
  | .char c :: rest => (chars? rest).map (c :: ·)
  | .part _ :: _ => none

/-- The texts between pairs of dots. -/
def betweenDots : Octets → List Octets
  | [] => [[]]
  | '.' :: '.' :: rest => [] :: betweenDots rest
  | c :: rest =>
    match betweenDots rest with
    | piece :: more => (c :: piece) :: more
    | [] => [[c]]

/-- The integer that a text spells. -/
def integer? (cs : Octets) : Option Int :=
  match cs with
  | '-' :: ds => (decimal? ds).map fun n => -(n : Int)
  | '+' :: ds => (decimal? ds).map fun n => (n : Int)
  | ds => (decimal? ds).map fun n => (n : Int)

/-- The number of items of a sequence that are made at most. -/
def sequenceLimit : Nat := 1000000

/-- The integers from one to another one, with a step. -/
def integers (first last : Int) (step : Int) : List Int :=
  let size := if step = 0 then 1 else step.natAbs
  let count := min ((last - first).natAbs / size + 1) sequenceLimit
  (List.range count).map fun (i : Nat) =>
    let distance : Int := (size * i : Nat)
    if first ≤ last then first + distance else first - distance

/-- The number starts with a zero that is not all of it. -/
def isPadded (cs : Octets) : Bool :=
  match cs with
  | '0' :: _ :: _ | '-' :: '0' :: _ :: _ | '+' :: '0' :: _ :: _ => true
  | _ => false

/-- An integer with zeros in front, up to a width. -/
def padded (width : Nat) (n : Int) : Octets :=
  let digits := (toString n.natAbs).toList
  let sign := if n < 0 then ['-'] else []
  sign ++ List.replicate (width - sign.length - digits.length) '0' ++ digits

/-- The items of the sequence that a text stands for. -/
def sequence? (cs : Octets) : Option (List Octets) :=
  let made (first last : Octets) (step : Int) : Option (List Octets) :=
    match integer? first, integer? last, first, last with
    | some a, some b, _, _ =>
      let width := if isPadded first || isPadded last then max first.length last.length else 0
      some ((integers a b step).map (padded width))
    | none, none, [c], [d] =>
      if isLetter c && isLetter d then
        some ((integers c.toNat d.toNat step).map fun n => [Char.ofNat n.toNat])
      else none
    | _, _, _, _ => none
  match betweenDots cs with
  | [first, last] => made first last 1
  | [first, last, step] => (integer? step).bind (made first last)
  | _ => none

/-! ## Words -/

/-- The words that atoms stand for. -/
def expanded : Nat → List Atom → List (List Atom)
  | 0, as => [as]
  | n + 1, as =>
    match firstBraces? as with
    | none => [as]
    | some (front, inside, behind) =>
      let middles : List (List Atom) :=
        if inside.any (·.is ',') then (betweenCommas 0 inside).flatMap (expanded n)
        else
          match (chars? inside).bind sequence? with
          | some items => items.map fun cs => cs.map .char
          | none => [[Atom.char '\x7b'] ++ inside ++ [Atom.char '\x7d']]
      let ends := if behind.isEmpty then [[]] else expanded n behind
      middles.flatMap fun middle => ends.map fun last => front ++ middle ++ last

/-- The words that a word stands for. -/
def ofWord (w : Word) : List Word :=
  let as := atoms w
  if as.any (·.is '\x7b') then (expanded as.length as).map ofAtoms else [w]

end BulkSuppress.Shell.Alternatives
