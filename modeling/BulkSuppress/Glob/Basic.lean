/-
  Glob patterns. `?` stands for one character, `*` for any part of a name, `**` for any number
  of whole path components, `[...]` and `[!...]` for one character of a set or outside it; every
  other character stands for itself. `**` has to fill a path component alone, and a bracket has
  to be closed.
-/

namespace BulkSuppress.Glob

/-- A closed range of characters inside brackets; a single character is a range of one. -/
structure CharRange where
  low : Char
  high : Char
deriving DecidableEq, Repr

/-- One element of a pattern. -/
inductive Token where
  /-- The character itself. -/
  | literal (c : Char)
  /-- One character. -/
  | anyChar
  /-- One character of a set. -/
  | oneOf (set : List CharRange)
  /-- One character outside a set. -/
  | noneOf (set : List CharRange)
  /-- Any part of a name. -/
  | anySequence
  /-- Any number of whole components. -/
  | anyPath
deriving DecidableEq, Repr

/-- What makes a text no pattern. -/
inductive Problem where
  /-- Three stars in a row. -/
  | tooManyStars
  /-- Two stars that do not fill a component. -/
  | crowdedStars
  /-- A bracket that is not closed, or closed around nothing. -/
  | badRange
deriving DecidableEq, Repr

/-- A problem and the place in the pattern where it shows. -/
structure SyntaxError where
  /-- A number of characters from the start. -/
  position : Nat
  problem : Problem
deriving DecidableEq, Repr

/-- The wording of a problem. -/
def Problem.message : Problem → String
  | .tooManyStars => "wildcards are either regular `*` or recursive `**`"
  | .crowdedStars => "recursive wildcards must form a single path component"
  | .badRange => "invalid range pattern"

/-- The wording of an error. -/
def SyntaxError.message (e : SyntaxError) : String :=
  "Pattern syntax error near position " ++ toString e.position ++ ": " ++ e.problem.message

end Glob

/-- A pattern and the text it was read from. -/
structure Glob where
  source : String
  tokens : List Glob.Token
deriving DecidableEq, Repr

namespace Glob

/-! ## Reading a pattern -/

/-- The ranges that the text between brackets spells: `a-z` is a range, all else single. -/
def rangesOf : List Char → List CharRange
  | a :: '-' :: b :: rest => ⟨a, b⟩ :: rangesOf rest
  | a :: rest => ⟨a, a⟩ :: rangesOf rest
  | [] => []

/-- The text up to the first closing bracket and the text after it. -/
def untilBracket : List Char → Option (List Char × List Char)
  | [] => none
  | ']' :: rest => some ([], rest)
  | c :: rest => (untilBracket rest).map fun r => (c :: r.1, r.2)

theorem untilBracket_length {cs body rest : List Char} (h : untilBracket cs = some (body, rest)) :
    cs.length = body.length + 1 + rest.length := by
  induction cs generalizing body with
  | nil => simp [untilBracket] at h
  | cons c cs ih =>
    unfold untilBracket at h
    split at h
    · cases h
    · next heq =>
      obtain ⟨rfl, rfl⟩ := List.cons.inj heq
      simp only [Option.some.injEq, Prod.mk.injEq] at h
      obtain ⟨rfl, rfl⟩ := h
      simp; omega
    · next heq =>
      obtain ⟨rfl, rfl⟩ := List.cons.inj heq
      obtain ⟨⟨b, r⟩, hu, hb⟩ := Option.map_eq_some_iff.1 h
      simp only [Prod.mk.injEq] at hb
      obtain ⟨rfl, rfl⟩ := hb
      have := ih hu
      simp only [List.length_cons]; omega

/--
The token of a bracket whose text after `[` is given, with the text after it. The first
character of the set may be a closing bracket.
-/
def bracket : List Char → Option (Token × List Char)
  | '!' :: first :: cs => (untilBracket cs).map fun r => (.noneOf (rangesOf (first :: r.1)), r.2)
  | ['!'] => none
  | first :: cs => (untilBracket cs).map fun r => (.oneOf (rangesOf (first :: r.1)), r.2)
  | [] => none

theorem bracket_length {cs rest : List Char} {t : Token} (h : bracket cs = some (t, rest)) :
    rest.length < cs.length := by
  unfold bracket at h
  split at h
  · obtain ⟨⟨b, r⟩, hu, hb⟩ := Option.map_eq_some_iff.1 h
    simp only [Prod.mk.injEq] at hb
    obtain ⟨-, rfl⟩ := hb
    have := untilBracket_length hu
    simp; omega
  · cases h
  · obtain ⟨⟨b, r⟩, hu, hb⟩ := Option.map_eq_some_iff.1 h
    simp only [Prod.mk.injEq] at hb
    obtain ⟨-, rfl⟩ := hb
    have := untilBracket_length hu
    simp; omega
  · cases h

/--
The tokens of a pattern from position `pos` on, where `before` is the character in front of it.
-/
def tokensFrom (before : Option Char) (pos : Nat) :
    List Char → Except SyntaxError (List Token)
  | [] => .ok []
  | '*' :: '*' :: '*' :: _ => .error ⟨pos + 2, .tooManyStars⟩
  | '*' :: '*' :: rest =>
    if before = none ∨ before = some '/' then
      match rest with
      | [] => .ok [.anyPath]
      | '/' :: rest => (tokensFrom (some '/') (pos + 3) rest).map (.anyPath :: ·)
      | _ => .error ⟨pos + 2, .crowdedStars⟩
    else .error ⟨pos - 1, .crowdedStars⟩
  | '*' :: rest => (tokensFrom (some '*') (pos + 1) rest).map (.anySequence :: ·)
  | '?' :: rest => (tokensFrom (some '?') (pos + 1) rest).map (.anyChar :: ·)
  | '[' :: rest =>
    match h : bracket rest with
    | none => .error ⟨pos, .badRange⟩
    | some (t, rest') =>
      have := bracket_length h
      (tokensFrom (some ']') (pos + 1 + (rest.length - rest'.length)) rest').map (t :: ·)
  | c :: rest => (tokensFrom (some c) (pos + 1) rest).map (.literal c :: ·)
termination_by cs => cs.length

/-- The pattern that a text spells. -/
def parse (source : String) : Except SyntaxError Glob :=
  (tokensFrom none 0 source.toList).map fun tokens => ⟨source, tokens⟩

end Glob
end BulkSuppress
