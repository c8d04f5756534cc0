import BulkSuppress.Shell.Numeral
import BulkSuppress.Shell.Sum

/-
  Escapes and formats: what scripts put in front of octets and numbers to have them written. A
  format is used again as long as it takes up arguments. What is wrong with a format or with
  arguments is told as faults; the wording is up to those who write formats.
-/

namespace BulkSuppress.Shell.Format

/-! ## Escapes -/

/-- The octets that letters behind a backslash stand for. -/
def escapes : List (Char × Char) :=
  [('a', '\x07'), ('b', '\x08'), ('e', '\x1b'), ('f', '\x0c'), ('n', '\n'), ('r', '\r'),
    ('t', '\t'), ('v', '\x0b'), ('\\', '\\')]

/-- The octet with a number, of which only the lowest eight bits count. -/
def octetOf (n : Nat) : Char := Char.ofNat (n % 256)

/-- The octet that up to three octal digits at the front spell, and what is behind them. -/
def octal (cs : Octets) : Char × Octets :=
  let digits := (cs.take 3).takeWhile fun c => (digitIn? 8 c).isSome
  (octetOf (numberIn 8 digits), cs.drop digits.length)

/-- The octets that an escape behind its backslash stands for, and what is behind it. -/
def escape (cs : Octets) : Octets × Octets :=
  match cs with
  | [] => (['\\'], [])
  | c :: rest =>
    match escapes.lookup c with
    | some d => ([d], rest)
    | none =>
      if (digitIn? 8 c).isSome then
        let (d, after) := octal (c :: rest)
        ([d], after)
      else (['\\'], c :: rest)

/-- An escape leaves no more than it is given. -/
theorem length_escape_le (cs : Octets) : (escape cs).2.length ≤ cs.length := by
  unfold escape
  split
  · simp
  · split
    · simp
    · split
      · simp [octal]
      · simp

/-- The octets of an escape in a text, where octal digits can have a zero in front. -/
def textEscape (cs : Octets) : Octets × Octets :=
  if cs.head? = some '0' then
    let (d, after) := octal (cs.drop 1)
    ([d], after)
  else escape cs

/-- An escape in a text leaves no more than it is given. -/
theorem length_textEscape_le (cs : Octets) : (textEscape cs).2.length ≤ cs.length := by
  unfold textEscape
  split
  · simp only [octal, List.length_drop]; omega
  · exact length_escape_le cs

/-- The octets of a text with escapes, and whether it asks for an end of all output. -/
def unescape (cs : Octets) : Octets × Bool :=
  match cs with
  | [] => ([], false)
  | c :: rest =>
    if c = '\\' then
      if rest.head? = some 'c' then ([], true)
      else
        have := length_textEscape_le rest
        let r := unescape (textEscape rest).2
        ((textEscape rest).1 ++ r.1, r.2)
    else
      let r := unescape rest
      (c :: r.1, r.2)
termination_by cs.length
decreasing_by all_goals simp only [List.length_cons]; omega

/-- The octets of texts with escapes, with blanks between them. -/
def echoed (args : List Octets) : Octets :=
  let (lineEnd, args) : Octets × List Octets := match args with
    | ['-', 'n'] :: rest => ([], rest)
    | _ => (['\n'], args)
  let (cs, stopped) := unescape (Octets.join [' '] args)
  if stopped then cs else cs ++ lineEnd

/-! ## Fields of a format -/

/-- How a value is written. -/
structure Field where
  /-- At the left end of its space. -/
  left : Bool := false
  plus : Bool := false
  blank : Bool := false
  /-- With what tells its base. -/
  based : Bool := false
  zeros : Bool := false
  width : Nat := 0
  precision : Option Nat := none

/-- The text in the space of a field. -/
def Field.padded (f : Field) (cs : Octets) : Octets :=
  let space := List.replicate (f.width - cs.length) ' '
  if f.left then cs ++ space else space ++ cs

/-- Octets in a field. -/
def Field.text (f : Field) (cs : Octets) : Octets :=
  f.padded (match f.precision with
    | some n => cs.take n
    | none => cs)

/-- The digits of a number in a base. -/
def digitsIn (base : Nat) (n : Nat) : Octets := if n = 0 then ['0'] else Nat.toDigits base n

/-- Digits with a sign in front, in a field. -/
def Field.digits (f : Field) (sign : Octets) (digits : Octets) : Octets :=
  let digits := match f.precision with
    | some n => List.replicate (n - digits.length) '0' ++ digits
    | none =>
      if f.zeros && !f.left then
        List.replicate (f.width - sign.length - digits.length) '0' ++ digits
      else digits
  f.padded (sign ++ digits)

/-- The digits of a number; none for zero if the field asks for no digits. -/
def Field.digitsOf (f : Field) (base n : Nat) : Octets :=
  if n = 0 && f.precision = some 0 then [] else digitsIn base n

/-- An integer with a sign in a field. -/
def Field.signed (f : Field) (n : Int) : Octets :=
  let sign := if n < 0 then ['-'] else if f.plus then ['+'] else if f.blank then [' '] else []
  f.digits sign (f.digitsOf 10 n.natAbs)

/-- A number in a field, as the letter of its conversion says. -/
def Field.unsigned (f : Field) (letter : Char) (n : Nat) : Octets :=
  match letter with
  | 'o' =>
    let ds := f.digitsOf 8 n
    f.digits [] (if f.based && ds.head? ≠ some '0' && (f.precision.getD 0) ≤ ds.length then
      '0' :: ds else ds)
  | 'x' => f.digits (if f.based && n ≠ 0 then ['0', 'x'] else []) (f.digitsOf 16 n)
  | 'X' =>
    f.digits (if f.based && n ≠ 0 then ['0', 'X'] else []) ((f.digitsOf 16 n).map Char.toUpper)
  | _ => f.digits [] (f.digitsOf 10 n)

/-- A number with its sign in a field, as the letter of its conversion says. -/
def Field.numeral (f : Field) (binary : Numeral.Binary) (letter : Char) (x : Numeral) : Octets :=
  let shape : Numeral.Shape := match letter.toLower with
    | 'f' => .fixed
    | 'e' => .scientific
    | 'g' => .general
    | _ => .hexadecimal
  let text := Numeral.written binary shape f.precision f.based x
  let text := if letter.isUpper then text.map Char.toUpper else text
  let sign := if x.isNegative then ['-'] else if f.plus then ['+'] else if f.blank then [' '] else []
  let isFinite := match x with
    | .finite .. => true
    | _ => false
  let front := if shape = .hexadecimal && isFinite then text.take 2 else []
  let zeros := if f.zeros && !f.left && isFinite then f.width - sign.length - text.length else 0
  f.padded (sign ++ front ++ List.replicate zeros '0' ++ text.drop front.length)

/-! ## Formats -/

/-- What is wrong with a format or an argument. -/
inductive Fault where
  | notNumeric (argument : Octets)
  /-- Only the front of the argument is a number. -/
  | incomplete (argument : Octets)
  | outOfRange (argument : Octets)
  | badDirective (directive : Octets)
  /-- The format ends where a letter should say what is written. -/
  | noLetter (directive : Octets)
deriving DecidableEq, Repr

/-- What became of a format and its arguments. -/
structure Printed where
  out : Octets := []
  /-- What was wrong with arguments, with the number of octets that were written before. -/
  warnings : List (Fault × Nat) := []
  /-- Why it ended too early. -/
  problem : Option Fault := none
  /-- An argument asked for an end of all output. -/
  stopped : Bool := false

/-- How the formats of a command are read. -/
structure Manner where
  /-- The binary format that numbers are rounded to. -/
  binary : Numeral.Binary := Numeral.double
  /-- The octets of an escape in a format behind its backslash, and what is behind it. -/
  escape : Octets → Octets × Octets := escape
  /-- The octets of an argument with escapes, and whether it asks for an end of all output. -/
  unescape : Octets → Octets × Bool := unescape
  /-- An argument so that a shell reads it back, if there is a letter for that. -/
  quote : Option (Octets → Octets) := none
  /-- A time in the form that a format says, if there is a letter for that. -/
  time : Option (Octets → Int → Octets) := none
  /-- Letters that say how large a number is do not count. -/
  sizes : Bool := false

/-- Writing, with the arguments that are left. -/
abbrev Printer := ExceptT Unit (StateM (Printed × List Octets))

namespace Printer

/-- Write octets. -/
def put (cs : Octets) : Printer Unit := modify fun s => ({ s.1 with out := s.1.out ++ cs }, s.2)

/-- Note that something is wrong with an argument. -/
def warn (fault : Fault) : Printer Unit :=
  modify fun s => ({ s.1 with warnings := s.1.warnings ++ [(fault, s.1.out.length)] }, s.2)

/-- End, because something is wrong with the format. -/
def fail {α : Type} (fault : Fault) : Printer α := do
  modify fun s => ({ s.1 with problem := some fault }, s.2)
  throw ()

/-- Take the next argument, if there is one. -/
def argument : Printer (Option Octets) := do
  let (p, args) ← get
  set (p, args.drop 1)
  return args.head?

/-- The largest number of 64 bits. -/
def largestNumber : Nat := 18446744073709551615

/-- Take the next argument as an integer between limits. -/
def integer (low high : Int) : Printer Int := do
  match ← argument with
  | none => return 0
  | some [] => return 0
  | some (c :: rest) =>
    if c = '\'' || c = '"' then return (rest.head?.map fun d => (d.toNat : Int)).getD 0
    else
      let whole := c :: rest
      let body := whole.dropWhile fun c => c = ' ' || ('\t' ≤ c && c ≤ '\r')
      let (negative, digits) := match body with
        | '-' :: ds => (true, ds)
        | '+' :: ds => (false, ds)
        | ds => (false, ds)
      let (base, start) := match digits with
        | '0' :: x :: d :: _ =>
          if (x = 'x' || x = 'X') && (digitIn? 16 d).isSome then (16, 2) else (8, 0)
        | '0' :: _ => (8, 0)
        | _ => (10, 0)
      let spelling := (digits.drop start).takeWhile fun c => (digitIn? base c).isSome
      let magnitude : Int := numberIn base spelling
      let n := if negative then -magnitude else magnitude
      if spelling.isEmpty then
        warn (.notNumeric whole)
        return 0
      else
        let value := if n < low then (if low = 0 then 0 else low) else if high < n then high else n
        if start + spelling.length < digits.length then
          warn (.incomplete whole)
        else if value ≠ n then warn (.outOfRange whole)
        return value

/-- Take the next argument as an integer with a sign. -/
def signedInteger : Printer Int := integer (-Sum.largest - 1) Sum.largest

/-- Take the next argument as a number of 64 bits; one with a sign wraps. -/
def unsignedInteger : Printer Nat := do
  let limit : Int := largestNumber
  let n ← integer (-limit) limit
  return if n = -limit then (if n < 0 then 1 else 0)
    else if n < 0 then (n + limit + 1).toNat else n.toNat

/-- Take the next argument as a number of a binary format. -/
def numeral (binary : Numeral.Binary) : Printer Numeral := do
  match ← argument with
  | none | some [] => return .ofNat 0
  | some (c :: rest) =>
    if c = '\'' || c = '"' then return .ofNat ((rest.head?.map Char.toNat).getD 0)
    else
      let whole := c :: rest
      let (x, length) := Numeral.read whole
      let (value, isOut) := x.rounded binary
      if length = 0 then warn (.notNumeric whole)
      else if length < whole.length then warn (.incomplete whole)
      else if isOut then warn (.outOfRange whole)
      return value

end Printer

/-- The field with the flags that signs stand for. -/
def withFlags (signs : Octets) (f : Field) : Field :=
  signs.foldl (fun f c => match c with
    | '-' => { f with left := true }
    | '+' => { f with plus := true }
    | ' ' => { f with blank := true }
    | '#' => { f with based := true }
    | _ => { f with zeros := true }) f

/-- The characters that a width or a precision can have. -/
def isMeasure (c : Char) : Bool := c = '*' || isDigit c

/-- The width at the front of a format, and what is behind it. -/
def width (f : Field) (cs : Octets) : Printer (Field × Octets) := do
  match cs with
  | '*' :: rest =>
    let n ← Printer.signedInteger
    return ({ f with width := n.natAbs, left := f.left || n < 0 }, rest)
  | _ =>
    let spelling := cs.takeWhile isMeasure
    return ({ f with width := numberIn 10 (spelling.takeWhile isDigit) }, cs.drop spelling.length)

/-- The precision at the front of a format, and what is behind it. -/
def precision (f : Field) (cs : Octets) : Printer (Field × Octets) := do
  match cs with
  | '.' :: '*' :: rest =>
    let n ← Printer.signedInteger
    return ({ f with precision := if n < 0 then none else some n.toNat }, rest)
  | '.' :: rest =>
    let spelling := rest.takeWhile isMeasure
    return ({ f with precision := some (numberIn 10 (spelling.takeWhile isDigit)) },
      rest.drop spelling.length)
  | _ => return (f, cs)

/-- Write an argument as a letter says; `directive` is how the field is spelled. -/
def convert (manner : Manner) (f : Field) (letter : Char) (directive : Octets) :
    Printer Unit := do
  let binary := manner.binary
  match letter with
  | 's' => Printer.put (f.text ((← Printer.argument).getD []))
  | 'b' =>
    let (cs, stopped) := manner.unescape ((← Printer.argument).getD [])
    Printer.put (f.text cs)
    if stopped then
      modify fun s => ({ s.1 with stopped := true }, s.2)
      throw ()
  | 'c' =>
    let cs := (← Printer.argument).getD []
    Printer.put (f.padded [cs.head?.getD '\x00'])
  | 'd' | 'i' => Printer.put (f.signed (← Printer.signedInteger))
  | 'o' | 'u' | 'x' | 'X' => Printer.put (f.unsigned letter (← Printer.unsignedInteger))
  | 'f' | 'F' | 'e' | 'E' | 'g' | 'G' | 'a' | 'A' =>
    Printer.put (f.numeral binary letter (← Printer.numeral binary))
  | 'q' | 'Q' =>
    match manner.quote with
    | some quote =>
      let cs := (← Printer.argument).getD []
      if letter = 'q' then Printer.put (f.text (quote cs))
      else Printer.put (f.padded (quote ((f.precision.map fun n => cs.take n).getD cs)))
    | none => Printer.fail (.badDirective directive)
  | _ => Printer.fail (.badDirective directive)

/-- The format of a time in parentheses at the front, and what is behind it and its letter. -/
def timeFormat? (cs : Octets) : Option (Octets × Octets) :=
  match cs with
  | '(' :: rest =>
    let inside := rest.takeWhile (· ≠ ')')
    match rest.drop inside.length with
    | ')' :: 'T' :: behind => some (inside, behind)
    | _ => none
  | _ => none

/-- Write a format once. -/
def once (manner : Manner) : Nat → Octets → Printer Unit
  | 0, _ => return
  | _ + 1, [] => return
  | n + 1, '\\' :: rest => do
    Printer.put (manner.escape rest).1
    once manner n (manner.escape rest).2
  | n + 1, '%' :: '%' :: rest => do
    Printer.put ['%']
    once manner n rest
  | n + 1, '%' :: rest => do
    let signs := rest.takeWhile fun c =>
      "#-+ 0".toList.contains c || (manner.sizes && c = '\'')
    let flags := signs.filter (· ≠ '\'')
    let (f, after) ← width (withFlags flags {}) (rest.drop signs.length)
    let (f, after) ← precision f after
    let after := if manner.sizes then after.dropWhile "hlLjzt".toList.contains else after
    match manner.time, timeFormat? after, after with
    | some time, some (format, behind), _ =>
      let (_, args) ← get
      let seconds ← Printer.signedInteger
      Printer.put (f.text (time format (if args.isEmpty then -1 else seconds)))
      once manner n behind
    | _, _, [] => Printer.fail (.noLetter ('%' :: rest))
    | _, _, letter :: behind =>
      convert manner f letter ('%' :: rest.take (rest.length - behind.length))
      once manner n behind
  | n + 1, c :: rest => do
    Printer.put [c]
    once manner n rest

/-- Write a format as often as it takes up arguments. -/
def again (manner : Manner) : Nat → Octets → Printer Unit
  | 0, _ => return
  | n + 1, format => do
    let before := (← get).2.length
    once manner (format.length + 1) format
    let left := (← get).2.length
    if left ≠ 0 && left < before then again manner n format

/-- What a format makes of arguments. -/
def printed (manner : Manner) (format : Octets) (args : List Octets) : Printed :=
  ((again manner (args.length + 1) format).run.run ({}, args)).2.1

end BulkSuppress.Shell.Format
