import BulkSuppress.Shell.Pattern
import BulkSuppress.Shell.Syntax
import BulkSuppress.Shell.Quotes

/-
  What expansions make of values in the extended dialect: parts of them, other texts in place of
  what a pattern matches, and other letters.
-/

namespace BulkSuppress.Shell.Transform

/--
The octets of a value from a start on, which counts from the end if it is negative; nothing if a
length that counts from the end leads back behind the start.
-/
def slice? (start : Int) (length : Option Int) (cs : Octets) : Option Octets :=
  let size : Int := cs.length
  let first := if start < 0 then start + size else start
  if first < 0 || size < first then some []
  else
    match length with
    | none => some (cs.drop first.toNat)
    | some n =>
      if 0 ≤ n then some ((cs.drop first.toNat).take n.toNat)
      else if size + n < first then none
      else some ((cs.take (size + n).toNat).drop first.toNat)

/-- The items of which the places come from a start on; nothing if their number is negative. -/
def sliceItems? (start : Int) (length : Option Int) (limit : Int) (items : List (Int × Octets)) :
    Option (List Octets) :=
  let first := if start < 0 then start + limit else start
  if first < 0 then some []
  else
    let rest := (items.filter fun i => first ≤ i.1).map (·.2)
    match length with
    | none => some rest
    | some n => if n < 0 then none else some (rest.take n.toNat)

/-! ## Replacing -/

/-- A pattern that may take letters for others. -/
structure Sought where
  parts : List PatternPart
  /-- The case of letters does not count; the pattern itself has none in upper case. -/
  foldsCase : Bool := false

/-- The pattern matches a text. -/
def Sought.isMatch (p : Sought) (cs : Octets) : Bool :=
  Shell.isMatch p.parts (if p.foldsCase then cs.map Char.toLower else cs)

/-- The length of the longest text at the front that a pattern matches. -/
def longestMatch? (p : Sought) (cs : Octets) : Option Nat :=
  ((List.range (cs.length + 1)).reverse).find? fun n => p.isMatch (cs.take n)

/-- The text that comes in for a match: an unquoted sign stands for the match itself. -/
def replacement (word : List Marked) (found : Octets) : Octets :=
  match word with
  | [] => []
  | ('\\', false) :: ('&', false) :: rest => '&' :: replacement rest found
  | ('&', false) :: rest => found ++ replacement rest found
  | (c, _) :: rest => c :: replacement rest found

/-- The text with another one in place of each match, or of the first one. -/
def replaceFrom (isAll : Bool) (p : Sought) (word : List Marked) : Nat → Octets → Octets
  | 0, cs => cs
  | _ + 1, [] => []
  | n + 1, c :: cs =>
    match longestMatch? p (c :: cs) with
    | none => c :: replaceFrom isAll p word n cs
    | some length =>
      let new := replacement word ((c :: cs).take length)
      let rest := (c :: cs).drop length
      if !isAll then new ++ rest
      else if length = 0 then new ++ c :: replaceFrom isAll p word n cs
      else new ++ replaceFrom isAll p word n rest

/-- The text with another one in place of what a pattern matches at a site. -/
def replace (site : Site) (p : Sought) (word : List Marked) (cs : Octets) : Octets :=
  match site with
  | .front =>
    match longestMatch? p cs with
    | some n => replacement word (cs.take n) ++ cs.drop n
    | none => cs
  | .back =>
    match (List.range (cs.length + 1)).find? fun n => p.isMatch (cs.drop n) with
    | some n => cs.take n ++ replacement word (cs.drop n)
    | none => cs
  | site =>
    if p.parts.isEmpty then cs
    else if cs.isEmpty then if p.isMatch [] then replacement word [] else []
    else replaceFrom (site = .all) p word (cs.length + 1) cs

/-! ## Letters -/

/-- A letter in another case. -/
def recased (how : Casing) (c : Char) : Char :=
  match how with
  | .upper => c.toUpper
  | .lower => c.toLower
  | .swapped => if c.isUpper then c.toLower else c.toUpper

/-- The text with other letters where a pattern matches them; an empty pattern matches all. -/
def recase (how : Casing) (isAll : Bool) (ps : List PatternPart) (cs : Octets) : Octets :=
  let change (c : Char) : Char := if ps.isEmpty || isMatch ps [c] then recased how c else c
  match cs with
  | [] => []
  | c :: rest => change c :: (if isAll then rest.map change else rest)

/-- The text with the octets that its escapes spell. -/
def unspelled : Nat → Octets → Octets
  | 0, cs => cs
  | _ + 1, [] => []
  | n + 1, '\\' :: rest =>
    let (cs, length) := Words.escapeSpelled rest
    cs ++ unspelled n (rest.drop length)
  | n + 1, c :: rest => c :: unspelled n rest

end BulkSuppress.Shell.Transform
