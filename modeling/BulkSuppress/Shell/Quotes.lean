import BulkSuppress.Shell.Octets
import BulkSuppress.Shell.Pattern

/-
  Texts as scripts of the extended dialect write them: in single quotes, with a dollar sign in
  front if something in them cannot be seen, or with a backslash in front of each sign. Between a
  dollar sign and single quotes, escapes spell octets: by letters, by numbers in base eight or
  sixteen, and by the numbers of characters.
-/

namespace BulkSuppress.Shell.Quotes

/-- The letters that spell controls behind a backslash. -/
def controlLetters : List (Char × Char) :=
  [('\x1b', 'E'), ('\x07', 'a'), ('\x0b', 'v'), ('\x08', 'b'), ('\x0c', 'f'), ('\n', 'n'),
    ('\r', 'r'), ('\t', 't')]

/-- An octet between a dollar sign and single quotes. -/
def spelledOctet (c : Char) : Octets :=
  match controlLetters.lookup c with
  | some letter => ['\\', letter]
  | none =>
    if c = '\\' || c = '\'' then ['\\', c]
    else if c = ' ' || isGraphic c then [c]
    else
      let digit (n : Nat) : Char := Char.ofNat ('0'.toNat + n)
      ['\\', digit (c.toNat / 64), digit (c.toNat / 8 % 8), digit (c.toNat % 8)]

/-- A text between a dollar sign and single quotes. -/
def spelled (cs : Octets) : Octets := "$'".toList ++ cs.flatMap spelledOctet ++ ['\'']

/-- Something in the text cannot be seen. -/
def isHidden (cs : Octets) : Bool := cs.any fun c => !(c = ' ' || isGraphic c)

/-- A text in single quotes. -/
def single (cs : Octets) : Octets :=
  if cs = ['\''] then ['\\', '\'']
  else ['\''] ++ cs.flatMap (fun c => if c = '\'' then "'\\''".toList else [c]) ++ ['\'']

/-- A text so that it can be used again. -/
def reusable (cs : Octets) : Octets := if isHidden cs then spelled cs else single cs

/-- A text in double quotes, with a backslash in front of what means something there. -/
def double (cs : Octets) : Octets :=
  ['"'] ++ cs.flatMap (fun c => if "\"$\\".toList.contains c || c = '\x60' then ['\\', c] else [c]) ++
    ['"']

/-- A sign that means something to a shell wherever it stands. -/
def isSign (c : Char) : Bool := " \t\n'\"\\|&;()<>!*[?]^$\x60\x7b\x7d".toList.contains c

/-- A text with a backslash in front of each sign. -/
def escaped (cs : Octets) : Octets :=
  if cs.isEmpty then "''".toList
  else if isHidden cs then spelled cs
  else
    let front := match cs with
      | '#' :: _ | '~' :: _ => ['\\']
      | _ => []
    front ++ cs.flatMap fun c => if isSign c || c = ',' then ['\\', c] else [c]

/-- A shell would take the text for something else. -/
def hasSigns (cs : Octets) : Bool :=
  match cs with
  | c :: _ => c = '#' || c = '~' || cs.any isSign || isTilde cs
  | [] => false
where
  /-- A tilde stands behind a sign behind which it stands for a directory. -/
  isTilde : Octets → Bool
    | c :: d :: rest => ((c = '=' || c = ':') && d = '~') || isTilde (d :: rest)
    | _ => false

/-- A word as a script shows it before a command runs. -/
def traced (cs : Octets) : Octets :=
  if cs.isEmpty then "''".toList
  else if hasSigns cs then single cs
  else if isHidden cs then spelled cs
  else cs

end BulkSuppress.Shell.Quotes

namespace BulkSuppress.Shell.Words

/-! ## Escapes behind a dollar sign -/

/-- The octets that letters behind a backslash stand for. -/
def spellings : List (Char × Char) :=
  [('a', '\x07'), ('b', '\x08'), ('e', '\x1b'), ('E', '\x1b'), ('f', '\x0c'), ('n', '\n'),
    ('r', '\r'), ('t', '\t'), ('v', '\x0b'), ('\\', '\\'), ('\'', '\''), ('"', '"'), ('?', '?')]

/-- The octet of the control with a letter. -/
def controlOf (c : Char) : Char :=
  if c = '?' then '\x7f' else Char.ofNat (c.toUpper.toNat % 32)

/-- The number that so many digits of a base at the front spell, and the number of these digits. -/
def leadingNumber (base most : Nat) (cs : Octets) : Nat × Nat :=
  let digits := (cs.take most).takeWhile fun c => (digitIn? base c).isSome
  (numberIn base digits, digits.length)

/--
The character with a number beyond ASCII, as a place without such characters writes it: by its
number.
-/
def universal (letter : Char) (n : Nat) : Octets :=
  if n < 0x80 then [Char.ofNat n]
  else
    let ds := (Nat.toDigits 16 n).map Char.toUpper
    let width := if letter = 'u' || n < 0x10000 then 4 else 8
    let letter := if n < 0x10000 then 'u' else 'U'
    ['\\', letter] ++ List.replicate (width - ds.length) '0' ++ ds

/-- The octets of an escape behind its backslash, and the number of characters that spell it. -/
def escapeSpelled : Octets → Octets × Nat
  | [] => (['\\'], 0)
  | c :: rest =>
    match spellings.lookup c with
    | some d => ([d], 1)
    | none =>
      if (digitIn? 8 c).isSome then
        let (n, length) := leadingNumber 8 3 (c :: rest)
        ([Char.ofNat (n % 256)], length)
      else if c = 'x' then
        let (n, length) := leadingNumber 16 2 rest
        if length = 0 then (['\\', 'x'], 1) else ([Char.ofNat n], length + 1)
      else if c = 'u' || c = 'U' then
        let (n, length) := leadingNumber 16 (if c = 'u' then 4 else 8) rest
        if length = 0 then (['\\', c], 1) else (universal c n, length + 1)
      else if c = 'c' then
        match rest with
        | d :: _ => ([controlOf d], 2)
        | [] => (['\\', 'c'], 1)
      else (['\\', c], 1)

/--
The octets of a text up to the quote that ends it, and the number of characters up to behind that
quote; nothing if there is no such quote. A number of zero ends what the text stands for.
-/
def spelledText : Nat → Octets → Option (Octets × Nat)
  | 0, _ | _, [] => none
  | n + 1, c :: rest =>
    if c = '\'' then some ([], 1)
    else if c = '\\' then
      let (cs, length) := escapeSpelled rest
      (spelledText n (rest.drop length)).map fun r => (cs ++ r.1, r.2 + length + 1)
    else (spelledText n rest).map fun r => (c :: r.1, r.2 + 1)

end BulkSuppress.Shell.Words
