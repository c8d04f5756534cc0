import BulkSuppress.Yaml.Token

/-
  Plain and quoted scalars. Both may run over several lines, which are then folded: one line end
  becomes a space, of more the first is dropped.
-/

namespace BulkSuppress.Yaml.Flow

/-! ## Between words -/

/-- What stands between two words. -/
structure Gap where
  /-- Spaces and tabs, as long as no line has ended. -/
  spaces : List Char := []
  /-- A line has ended. -/
  broken : Bool := false
  /-- The first line end. -/
  lead : Option Char := none
  /-- The line ends after the first. -/
  trail : List Char := []

namespace Gap

/-- What the gap comes to in the text. -/
def text (g : Gap) : List Char :=
  if !g.broken then g.spaces
  else if g.lead = some '\n' then (if g.trail.isEmpty then [' '] else g.trail)
  else g.lead.toList ++ g.trail

/-- The gap with one more line end. -/
def withBreak (g : Gap) (b : Char) : Gap :=
  if g.broken then { g with trail := g.trail ++ [b] }
  else { broken := true, lead := some b }

/-- The gap with one more space or tab; those at the start of a line do not count. -/
def withSpacing (g : Gap) (ch : Char) : Gap :=
  if g.broken then g else { g with spaces := g.spaces ++ [ch] }

/--
The gap that goes on at the cursor. At the start of a line no tab may stand in front of the
column `margin`.
-/
def scan (margin : Nat) (g : Gap) (c : Cursor) : Option (Gap × Cursor) :=
  match hb : c.takeBreak? with
  | some (b, c') =>
    have := Cursor.size_takeBreak? hb
    scan margin (g.withBreak b) c'
  | none =>
    match hr : c.rest with
    | [] => some (g, c)
    | ch :: _ =>
      if !isSpacing ch then some (g, c)
      else if g.broken && ch = '\t' && c.column < margin then none
      else
        have : (c.advance).size < c.size := by
          rw [Cursor.size_advance, Cursor.size, hr, List.length_cons]; omega
        scan margin (g.withSpacing ch) c.advance
termination_by c.size

end Gap

/-! ## Quoted scalars -/

/-- The character that a one-letter escape stands for. -/
def escapes : List (Char × Char) :=
  [('0', '\x00'), ('a', '\x07'), ('b', '\x08'), ('t', '\t'), ('\t', '\t'), ('n', '\n'),
    ('v', '\x0b'), ('f', '\x0c'), ('r', '\r'), ('e', '\x1b'), (' ', ' '), ('"', '"'), ('/', '/'),
    ('\\', '\\'), ('N', '\u0085'), ('_', '\u00a0'), ('L', '\u2028'), ('P', '\u2029')]

/-- The number of hexadecimal digits after the letter of an escape. -/
def escapeDigits? : Char → Option Nat
  | 'x' => some 2
  | 'u' => some 4
  | 'U' => some 8
  | _ => none

/-- The value of a hexadecimal digit. -/
def hexValue? (c : Char) : Option Nat :=
  if c.isDigit then some (c.toNat - '0'.toNat)
  else if 'a' ≤ c && c ≤ 'f' then some (c.toNat - 'a'.toNat + 10)
  else if 'A' ≤ c && c ≤ 'F' then some (c.toNat - 'A'.toNat + 10)
  else none

/-- The number that exactly `n` hexadecimal digits at the front spell. -/
def hexNumber? (n : Nat) (cs : List Char) : Option Nat :=
  if cs.length < n then none
  else (cs.take n).foldlM (fun acc c => (hexValue? c).map (acc * 16 + ·)) 0

/-- The character with a code point, if it is one. -/
def charOf? (code : Nat) : Option Char :=
  if h : code.isValidChar then some (Char.ofNatAux code h) else none

/-- The character that an escape spells, and the number of characters after the backslash. -/
def escape? : List Char → Option (Char × Nat)
  | [] => none
  | e :: rest =>
    match escapeDigits? e with
    | some n => do
      let code ← hexNumber? n rest
      let ch ← charOf? code
      return (ch, n + 1)
    | none => (escapes.lookup e).map fun ch => (ch, 1)

/--
The characters up to a gap, the closing quote or the end, whether an escaped line end stopped
them, and the cursor behind.
-/
def quotedWord (single : Bool) (c : Cursor) : Option (List Char × Bool × Cursor) :=
  match hr : c.rest with
  | [] => some ([], false, c)
  | ch :: rest =>
    have step (n : Nat) : (c.advance (n + 1)).size < c.size := by
      rw [Cursor.size_advance, Cursor.size, hr, List.length_cons]; omega
    if isGap ch then some ([], false, c)
    else if single then
      if ch = '\'' then
        if rest.head? = some '\'' then
          have := step 1
          (quotedWord single (c.advance 2)).map fun r => ('\'' :: r.1, r.2)
        else some ([], false, c)
      else
        have := step 0
        (quotedWord single c.advance).map fun r => (ch :: r.1, r.2)
    else if ch = '"' then some ([], false, c)
    else if ch = '\\' then
      if rest.head?.any isBreak then some ([], true, c.advance.skipBreak)
      else match escape? rest with
        | none => none
        | some (e, n) =>
          have := step n
          (quotedWord single (c.advance (n + 1))).map fun r => (e :: r.1, r.2)
    else
      have := step 0
      (quotedWord single c.advance).map fun r => (ch :: r.1, r.2)
termination_by c.size

/-- The text of a quoted scalar; the opening quote has been read. -/
def quoted (single : Bool) (c : Cursor) : Option (List Char × Cursor) :=
  if c.atDocumentMark || c.rest.isEmpty then none
  else match quotedWord single c with
    | none => none
    | some (word, escapedBreak, c1) =>
      if c1.sees (if single then '\'' else '"') then some (word, c1.advance)
      else match Gap.scan 0 { broken := escapedBreak } c1 with
        | none => none
        | some (g, c2) =>
          -- Neither a word nor a gap: the cursor does not move.
          if c2.size < c.size then
            (quoted single c2).map fun r => (word ++ g.text ++ r.1, r.2)
          else none
termination_by c.size

/-! ## Plain scalars -/

/-- The characters that are punctuation in flow collections. -/
def isFlowMark (c : Char) : Bool :=
  c = ',' || c = '[' || c = ']' || c = '\x7b' || c = '\x7d'

/-- The characters up to a gap or to punctuation; in a flow collection a colon must not touch it. -/
def plainWord (inFlow : Bool) : List Char → Option (List Char)
  | [] => some []
  | ch :: rest =>
    let next := rest.head?
    if isGap ch then some []
    else if inFlow && ch = ':' && next.any (fun n => isFlowMark n || n = '?') then none
    else if (ch = ':' && next.all isGap) || (inFlow && isFlowMark ch) then some []
    else (plainWord inFlow rest).map (ch :: ·)

/--
The rest of a plain scalar behind the gap `g`, whether a line ended behind its last word, and the
cursor behind. Outside flow collections the lines have to reach the column `margin`.
-/
def plain (inFlow : Bool) (margin : Nat) (g : Gap) (c : Cursor) :
    Option (List Char × Bool × Cursor) :=
  if c.atDocumentMark || c.sees '#' then some ([], g.broken, c)
  else match plainWord inFlow c.rest with
    | none => none
    | some [] => some ([], g.broken, c)
    | some (ch :: word) =>
      let text := g.text ++ ch :: word
      let c1 := c.advance (word.length + 1)
      match Gap.scan margin {} c1 with
      | none => none
      | some (g', c2) =>
        if !inFlow && c2.column < margin then some (text, g'.broken, c2)
        -- A word is not empty, so that the cursor has moved.
        else if c2.size < c.size then
          (plain inFlow margin g' c2).map fun r => (text ++ r.1, r.2)
        else none
termination_by c.size

end BulkSuppress.Yaml.Flow
