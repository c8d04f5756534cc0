import BulkSuppress.Shell.Octets

/-
  The order of names with versions in them. Digits count as numbers, letters come before other
  signs, a tilde before everything and even before an end. What looks like the suffix of a file
  only counts where the rest is the same.
-/

namespace BulkSuppress.Shell.Version

/-- The rank of the octet at the front, where an end has one too. -/
def rank (cs : Octets) : Int :=
  match cs with
  | [] => -1
  | c :: _ =>
    if isDigit c then 0
    else if isLetter c then c.toNat
    else if c = '~' then -2
    else c.toNat + 256

/-- The order of two numbers that digits spell, without zeros in front. -/
def compareDigits (a b : Octets) : Ordering :=
  let a := a.dropWhile (· = '0')
  let b := b.dropWhile (· = '0')
  (compare a.length b.length).then
    (List.compareLex (fun c d => compare c.toNat d.toNat) a b)

/-- The order of two names, in parts without digits and numbers in turn. -/
def compareParts : Nat → Octets → Octets → Ordering
  | 0, _, _ => .eq
  | n + 1, a, b =>
    let isEnd (cs : Octets) : Bool := cs.head?.all isDigit
    if !isEnd a || !isEnd b then
      if rank a = rank b then compareParts n (a.drop 1) (b.drop 1)
      else compare (rank a) (rank b)
    else if a.isEmpty && b.isEmpty then .eq
    else
      (compareDigits (a.takeWhile isDigit) (b.takeWhile isDigit)).then
        (compareParts n (a.dropWhile isDigit) (b.dropWhile isDigit))

/-- What is left of a name behind one suffix at its front, if there is one. -/
def afterSuffix? (cs : Octets) : Option Octets :=
  match cs with
  | '.' :: c :: rest =>
    if isLetter c || c = '~' then
      some (rest.dropWhile fun d => isLetter d || isDigit d || d = '~')
    else none
  | _ => none

/-- The name consists of suffixes. -/
def areSuffixes : Nat → Octets → Bool
  | 0, _ => false
  | n + 1, cs => cs.isEmpty || ((afterSuffix? cs).elim false (areSuffixes n))

/-- The name without the suffixes at its end. -/
def withoutSuffixes (cs : Octets) : Octets :=
  let lengths := (List.range cs.length).map (· + 1)
  match lengths.find? fun n => areSuffixes (cs.length + 1) (cs.drop n) with
  | some n => cs.take n
  | none => cs

/-- Names that stand in front of all others, in order. -/
def early (cs : Octets) : Nat :=
  if cs.isEmpty then 0
  else if cs = ['.'] then 1
  else if cs = ['.', '.'] then 2
  else if cs.head? = some '.' then 3
  else 4

/-- The order of two names. -/
def order (a b : Octets) : Ordering :=
  if early a ≠ early b then compare (early a) (early b)
  else
    let bound := a.length + b.length + 1
    (compareParts bound (withoutSuffixes a) (withoutSuffixes b)).then (compareParts bound a b)

end BulkSuppress.Shell.Version
