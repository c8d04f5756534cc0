import BulkSuppress.Shell.Regex.Reader

/-
  Scripts that edit lines: commands with the addresses of the lines that they are for, and the texts
  inside them, which stand between delimiters: escapes, and what is put in place of matches.
-/

namespace BulkSuppress.Shell.Utility.Sed

/-! ## Addresses -/

/-- What is looked for in a line: a regular expression, or the one that was used last. -/
structure Sought where
  regex : Option Regex
  foldsCase : Bool := false
  /-- Each line in the pattern space has its own start and end. -/
  byLine : Bool := false

/-- What a command is for. -/
inductive Address where
  | line (number : Nat)
  /-- Every so many lines, from one on. -/
  | every (first step : Nat)
  | last
  | matching (sought : Sought)

/-- The end of a range of lines. -/
inductive RangeEnd where
  | at' (a : Address)
  /-- So many lines behind the first one. -/
  | further (count : Nat)
  /-- The next line with a number that is a multiple. -/
  | multiple (factor : Nat)

/-! ## Commands -/

/-- A change of the case of letters. -/
inductive Casing where
  | upper | lower
deriving DecidableEq

/-- A part of what is put in place of a match. -/
inductive Replacement where
  | text (cs : Octets)
  /-- What a group holds, or the whole match for zero. -/
  | group (number : Nat)
  /-- The letters that follow get a case, or keep theirs. -/
  | casing (c : Option Casing)
  /-- The letter that follows gets a case. -/
  | oneCasing (c : Casing)

/-- What becomes of matches. -/
structure Substitution where
  sought : Sought
  parts : List Replacement
  /-- The number of the first match that is replaced. -/
  nth : Nat := 1
  all : Bool := false
  prints : Bool := false
  /-- The result is printed before it is run. -/
  printsFirst : Bool := false
  /-- The result is run as a command, and what that writes takes its place. -/
  executes : Bool := false
  /-- The file that takes lines with replacements. -/
  file : Option Octets := none

/-- What a text of a script is for. -/
inductive TextUse where
  | append | insert | change
  /-- It is run as a command; the pattern space is, if it is empty. -/
  | execute
deriving DecidableEq

/-- What a command does. -/
inductive Work where
  | substitute (s : Substitution)
  | translate (table : List (Char × Char))
  | print
  | printFirst
  | delete
  | deleteFirst
  | next
  | nextAppended
  | quit (status : Nat) (prints : Bool)
  | number
  | fileName
  | put (use : TextUse) (text : Octets)
  /-- Write the content of a file behind the present line. -/
  | appendFile (file : Octets)
  /-- Write the next line of a file behind the present line. -/
  | appendLine (file : Octets)
  /-- Write the pattern space, or its first line, to a file. -/
  | writeTo (file : Octets) (isFirst : Bool)
  /-- Write the pattern space so that all octets can be seen, in lines of a length. -/
  | spell (length : Option Nat)
  | clear
  | holdCopy
  | holdAppend
  | takeCopy
  | takeAppend
  | exchange
  | label (name : Octets)
  | branch (name : Octets)
  | branchIfChanged (name : Octets)
  | branchUnlessChanged (name : Octets)
  /-- Commands up to the closing brace, this many. -/
  | block (length : Nat)
  | nothing

/-- A command with the lines it is for. -/
structure Step where
  first : Option Address := none
  last : Option RangeEnd := none
  negated : Bool := false
  work : Work

namespace Step

/-- The label that a command goes to. -/
def target? (s : Step) : Option Octets :=
  match s.work with
  | .branch name | .branchIfChanged name | .branchUnlessChanged name =>
    if name.isEmpty then none else some name
  | _ => none

/-- The step is a label. -/
def isLabel (s : Step) (name : Octets) : Bool :=
  match s.work with
  | .label l => l = name
  | _ => false

/-- The file from which a command takes lines. -/
def lineSource? (s : Step) : Option Octets :=
  match s.work with
  | .appendLine file => some file
  | _ => none

/-- The file that a command writes to. -/
def writtenFile? (s : Step) : Option Octets :=
  match s.work with
  | .writeTo file _ => some file
  | .substitute s => s.file
  | _ => none

end Step

/-- The place behind a label, or the end of the commands. Of labels with one name the last counts. -/
def placeOf (script : List Step) (name : Octets) : Nat :=
  if name.isEmpty then script.length
  else ((script.reverse.findIdx? (·.isLabel name)).map (script.length - 1 - ·)).getD script.length

/-! ## Delimiters -/

/-- Where a regular expression is with respect to its sets. -/
inductive SetPlace where
  | outside
  /-- A set has been opened; it can be negated if it does not start yet. -/
  | opened (canNegate : Bool)
  | inside
  /-- In the name of a class, behind the mark that ends it too. -/
  | named (mark : Char)
deriving DecidableEq

/-- A text cut at a delimiter. -/
structure Cut where
  text : Octets := []
  /-- The number of octets up to the delimiter, with it. -/
  length : Nat
  closed : Bool

/-- The cut with octets in front that stand for other ones. -/
def Cut.behind (front : Octets) (length : Nat) (c : Cut) : Cut :=
  { c with text := front ++ c.text, length := length + c.length }

/--
The octets up to a delimiter. An escaped delimiter stands for itself, and an escaped line end too;
one that is not escaped ends the text. Sets of a regular expression can hold the delimiter.
-/
def cutAt (delimiter : Char) (isRegex : Bool) (place : SetPlace) : Octets → Cut
  | [] => { length := 0, closed := false }
  | '\n' :: _ => { length := 0, closed := false }
  | c :: rest =>
    match place with
    | .outside =>
      if c = delimiter then { length := 1, closed := true }
      else if c = '\\' then
        match rest with
        | [] => { length := 1, closed := false }
        | d :: rest =>
          let bare := d = '\n' || (d = delimiter && (isRegex || d ≠ '&'))
          (cutAt delimiter isRegex .outside rest).behind (if bare then [d] else [c, d]) 2
      else
        let place := if isRegex && c = '[' then SetPlace.opened true else .outside
        (cutAt delimiter isRegex place rest).behind [c] 1
    | .opened canNegate =>
      let place := if c = '^' && canNegate then SetPlace.opened false
        else if c = '[' then inName rest else .inside
      (cutAt delimiter isRegex place rest).behind [c] 1
    | .inside =>
      let place := if c = ']' then SetPlace.outside else if c = '[' then inName rest else .inside
      (cutAt delimiter isRegex place rest).behind [c] 1
    | .named mark =>
      match rest with
      | ']' :: rest =>
        if c = mark then (cutAt delimiter isRegex .inside rest).behind [c, ']'] 2
        else (cutAt delimiter isRegex place (']' :: rest)).behind [c] 1
      | rest => (cutAt delimiter isRegex place rest).behind [c] 1
where
  /-- A bracket inside a set opens the name of a class if a mark follows it. -/
  inName (rest : Octets) : SetPlace :=
    match rest.head? with
    | some mark => if mark = ':' || mark = '.' || mark = '=' then .named mark else .inside
    | none => .inside

/-! ## Escapes -/

/-- Why an escape makes no sense. -/
def nestedEscape : String := "recursive escaping after \\c not allowed"

/-- The octet of a number, of which only the last eight bits count. -/
def octet (n : Nat) : Char := Char.ofNat (n % 256)

/--
The octet that digits behind a letter spell, and what is behind them. Without digits the letter
stands for itself.
-/
def numbered (letter : Char) (base most : Nat) (belongs : Char → Bool) (cs : Octets) :
    Char × Octets :=
  let digits := (cs.take most).takeWhile belongs
  (if digits.isEmpty then letter else octet (numberIn base digits), cs.drop digits.length)

/-- An octal digit. -/
def isOctal (c : Char) : Bool := '0' ≤ c && c ≤ '7'

/-- A hexadecimal digit. -/
def isHex (c : Char) : Bool := isDigit c || ('a' ≤ c.toLower && c.toLower ≤ 'f')

/-- The octet that an escape stands for, and what is behind it; the text starts at its letter. -/
def escape? (cs : Octets) : Except String (Option (Char × Octets)) :=
  match cs with
  | 'a' :: rest => .ok (some ('\x07', rest))
  | 'f' :: rest => .ok (some ('\x0c', rest))
  | 'n' :: rest => .ok (some ('\n', rest))
  | 'r' :: rest => .ok (some ('\r', rest))
  | 't' :: rest => .ok (some ('\t', rest))
  | 'v' :: rest => .ok (some ('\x0b', rest))
  | 'c' :: '\\' :: '\\' :: rest => .ok (some ('\x1c', rest))
  | 'c' :: '\\' :: _ => .error nestedEscape
  | 'c' :: c :: rest => .ok (some (octet (c.toUpper.toNat ^^^ 64), rest))
  | 'd' :: rest => .ok (some (numbered 'd' 10 3 isDigit rest))
  | 'o' :: rest => .ok (some (numbered 'o' 8 3 isOctal rest))
  | 'x' :: rest => .ok (some (numbered 'x' 16 2 isHex rest))
  | _ => .ok none

theorem escape?_length (cs : Octets) :
    ∀ c rest, escape? cs = .ok (some (c, rest)) → rest.length < cs.length := by
  intro c rest h
  unfold escape? at h
  split at h <;> (try unfold numbered at h) <;>
    simp only [Except.ok.injEq, reduceCtorEq, Option.some.injEq, Prod.mk.injEq] at h
  all_goals obtain ⟨_, rfl⟩ := h
  all_goals simp only [List.length_cons, List.length_drop]
  all_goals omega

/--
A text with the octets that escapes stand for. Escapes of backslashes stay as they are, and so do
those that stand for nothing else.
-/
def withEscapes (cs : Octets) : Except String Octets :=
  match cs with
  | [] => .ok []
  | '\\' :: '\\' :: rest => do return '\\' :: '\\' :: (← withEscapes rest)
  | '\\' :: rest =>
    match h : escape? rest with
    | .error why => .error why
    | .ok (some (c, behind)) =>
      have := escape?_length rest c behind h
      do return c :: (← withEscapes behind)
    | .ok none => do return '\\' :: (← withEscapes rest)
  | c :: rest => do return c :: (← withEscapes rest)
termination_by cs.length

/-- A text with the octets that escapes stand for; any other one stands for what is escaped. -/
def unescaped (cs : Octets) : Except String Octets :=
  match cs with
  | [] => .ok []
  | '\\' :: rest =>
    match h : escape? rest with
    | .error why => .error why
    | .ok (some (c, behind)) =>
      have := escape?_length rest c behind h
      do return c :: (← unescaped behind)
    | .ok none =>
      match rest with
      | [] => .ok ['\\']
      | c :: rest => do return c :: (← unescaped rest)
  | c :: rest => do return c :: (← unescaped rest)
termination_by cs.length

/-! ## Replacements -/

/-- What an octet behind a backslash stands for in what is put in place of a match. -/
def escaped : Char → Replacement
  | 'U' => .casing (some .upper)
  | 'L' => .casing (some .lower)
  | 'E' => .casing none
  | 'u' => .oneCasing .upper
  | 'l' => .oneCasing .lower
  | c => if isDigit c then .group (c.toNat - '0'.toNat) else .text [c]

/-- The parts of what is put in place of a match. -/
def replacement (cs : Octets) : Except String (List Replacement) :=
  match cs with
  | [] => .ok []
  | '&' :: rest => do return .group 0 :: (← replacement rest)
  | ['\\', 'c'] => .ok [.text ['\\']]
  | '\\' :: rest =>
    match h : escape? rest with
    | .error why => .error why
    | .ok (some (c, behind)) =>
      have := escape?_length rest c behind h
      do return .text [c] :: (← replacement behind)
    | .ok none =>
      match rest with
      | [] => .ok [.text ['\\']]
      | c :: rest => do return escaped c :: (← replacement rest)
  | c :: rest => do return .text [c] :: (← replacement rest)
termination_by cs.length

/-- The highest number of a group that is put in place of a match. -/
def highest (parts : List Replacement) : Nat :=
  ((parts.filterMap fun
    | .group n => some n
    | _ => none).max?).getD 0

end BulkSuppress.Shell.Utility.Sed
