import BulkSuppress.Shell.Utility.Sed.Reader

/-
  What editing does to single lines: how matches are replaced, and how octets are spelled.
-/

namespace BulkSuppress.Shell.Utility.Sed

/-! ## Lines -/

/-- A line, and whether it has an end. -/
structure Line where
  text : Octets := []
  ended : Bool := true

/-- The lines of a text. -/
def linesOf (mark : Char) (cs : Octets) : List Line :=
  let pieces := Text.pieces mark cs
  let last := pieces.getLast?.getD []
  pieces.dropLast.map (⟨·, true⟩) ++ if last.isEmpty then [] else [⟨last, false⟩]

/-- A line with another one behind it. -/
def Line.append (mark : Char) (l behind : Line) : Line :=
  ⟨l.text ++ [mark] ++ behind.text, behind.ended⟩

/-! ## Substitutions -/

/-- An octet in a case. -/
def Casing.apply (c : Option Casing) (o : Char) : Char :=
  match c with
  | some .upper => o.toUpper
  | some .lower => o.toLower
  | none => o

/-- What is put in place of a match, in the cases asked for before. -/
def replaced (s : Regex.Subject) (i j : Nat) (held : Regex.Groups) (all one : Option Casing) :
    List Replacement → Octets
  | [] => []
  | .casing c :: parts => replaced s i j held c none parts
  | .oneCasing c :: parts => replaced s i j held all (some c) parts
  | .text cs :: parts => put cs ++ replaced s i j held all (if cs.isEmpty then one else none) parts
  | .group n :: parts =>
    let cs := if n = 0 then (s.octets.extract i j).toList
      else match held.lookup n with
        | some (a, b) => (s.octets.extract a b).toList
        | none => []
    put cs ++ replaced s i j held all (if cs.isEmpty then one else none) parts
where
  /-- Octets in the cases that are asked for. -/
  put : Octets → Octets
    | [] => []
    | c :: cs => Casing.apply (one.or all) c :: cs.map (Casing.apply all)

/-- The octets with matches replaced from a place on; `k` matches come before those replaced. -/
def substituted (s : Regex.Subject) (r : Regex) (parts : List Replacement) (all : Bool) :
    Nat → (k start : Nat) → (lastEnd : Option Nat) → Octets × Bool
  | 0, _, start, _ => (s.octets.toList.drop start, false)
  | n + 1, k, start, lastEnd =>
    match Regex.find? s r start with
    | none => (s.octets.toList.drop start, false)
    | some (i, j, held) =>
      let front := (s.octets.extract start i).toList
      let own := (s.octets.extract i j).toList
      let step := (s.octets.extract j (j + 1)).toList
      if i = j && lastEnd = some i then
        let rest := substituted s r parts all n k (j + 1) none
        if s.octets.size ≤ j then (front, false) else (front ++ step ++ rest.1, rest.2)
      else if 1 < k then
        if i = j then
          if s.octets.size ≤ j then (front, false)
          else
            let rest := substituted s r parts all n (k - 1) (j + 1) none
            (front ++ step ++ rest.1, rest.2)
        else
          let rest := substituted s r parts all n (k - 1) j (some j)
          (front ++ own ++ rest.1, rest.2)
      else
        let new := replaced s i j held none none parts
        if !all then (front ++ new ++ s.octets.toList.drop j, true)
        else if i = j then
          if s.octets.size ≤ j then (front ++ new, true)
          else
            let rest := substituted s r parts all n 1 (j + 1) none
            (front ++ new ++ step ++ rest.1, true)
        else
          let rest := substituted s r parts all n 1 j (some j)
          (front ++ new ++ rest.1, true)

/-! ## Spelling -/

/-- An octet as it can always be seen. -/
def spelled (c : Char) : Octets :=
  match c with
  | '\\' => ['\\', '\\']
  | '\x07' => ['\\', 'a']
  | '\x08' => ['\\', 'b']
  | '\x0c' => ['\\', 'f']
  | '\n' => ['\\', 'n']
  | '\r' => ['\\', 'r']
  | '\t' => ['\\', 't']
  | '\x0b' => ['\\', 'v']
  | c =>
    if ' ' ≤ c && c ≤ '~' then [c]
    else
      let digits := Nat.toDigits 8 c.toNat
      '\\' :: List.replicate (3 - digits.length) '0' ++ digits

/-- Octets as they can always be seen, in lines of a length; zero stands for no limit. -/
def spelledLines (mark : Char) (length : Nat) (cs : Octets) : Octets :=
  let r := cs.foldl (fun (out, width) c =>
    let own := spelled c
    if 0 < length && length - 1 < width + own.length then (out ++ ['\\', '\n'] ++ own, own.length)
    else (out ++ own, width + own.length)) (([], 0) : Octets × Nat)
  r.1 ++ ['$', mark]

/-- The length of spelled lines if none is told. -/
def spelledLength : Nat := 70

end BulkSuppress.Shell.Utility.Sed
