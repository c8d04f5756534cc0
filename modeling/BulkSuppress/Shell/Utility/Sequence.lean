import BulkSuppress.Shell.Format
import BulkSuppress.Shell.Numeral
import BulkSuppress.Shell.Utility.Arguments

/-
  Writing the numbers from one to another in steps. Whole numbers are exact; all others are rounded
  to binary fractions of 80 bits after each operation.
-/

namespace BulkSuppress.Shell.Utility.Sequence

/-! ## Numbers -/

/-- The nearest binary fraction. -/
def rounded (x : Numeral) : Numeral := (x.rounded Numeral.extended).1

/-- A finite number as a quotient. -/
def quotient? : Numeral → Option (Int × Nat)
  | .finite negative num den => some (if negative then -(num : Int) else num, den)
  | _ => none

/-- The number that is a quotient. -/
def ofQuotient (n : Int) (den : Nat) : Numeral := .finite (n < 0) n.natAbs den

/-- The number that is so many steps behind another one. -/
def stepped (first step : Numeral) (count : Nat) : Numeral :=
  match quotient? first, if count = 0 then some (0, 1) else quotient? step with
  | some (a, b), some (c, d) =>
    match quotient? (rounded (ofQuotient (c * count) d)) with
    | some (e, f) => rounded (ofQuotient (a * f + e * b) (b * f))
    | none => .infinite step.isNegative
  | none, _ => first
  | _, none => step

/-- A number is less than another one. -/
def isLess (x y : Numeral) : Bool :=
  match x, y with
  | .finite .., .finite .. =>
    match quotient? x, quotient? y with
    | some (a, b), some (c, d) => a * d < c * b
    | _, _ => false
  | .infinite negative, y => negative && y ≠ .infinite true
  | _, .infinite negative => !negative
  | _, _ => false

/-- A number as it is given: its value, and how much space it takes. -/
structure Given where
  value : Numeral
  /-- The width without an exponent. -/
  width : Int := 1
  /-- The number of places behind the point; none if that is not told. -/
  precision : Option Nat := some 0

/-- The width and the precision of a decimal number that a text spells. -/
def extent (cs : Octets) : Int × Nat :=
  let isExponent (c : Char) : Bool := c = 'e' || c = 'E'
  let front := cs.takeWhile fun c => !isExponent c
  let hasPoint := front.contains '.'
  let whole := front.takeWhile (· ≠ '.')
  let fraction := (front.drop (whole.length + 1)).length
  let width : Int := front.length +
    (if !hasPoint then 0
    else if fraction = 0 then -1
    else if whole.getLast?.any isDigit then 0 else 1)
  if front.length = cs.length then (width, fraction)
  else
    let exponent := (Numeral.exponentAt 'e' (cs.drop front.length)).1
    let precision : Int := if exponent < 0 then fraction - exponent
      else fraction - min (fraction : Int) exponent
    let width := if 0 ≤ exponent then width
      else if hasPoint && fraction ≠ 0 then width else width + 1
    (width + exponent.natAbs, precision.toNat)

/-- The number that an argument spells. -/
def given? (cs : Octets) : Option Given :=
  (Numeral.ofOctets? cs).map fun value =>
    let body := (cs.dropWhile fun c => c = ' ' || ('\t' ≤ c && c ≤ '\r')).dropWhile (· = '+')
    let value := if cs.all isDigit then value else rounded value
    let isHexadecimal := body.contains 'x' || body.contains 'X'
    match value with
    | .finite .. =>
      if isHexadecimal then
        { value, width := 0
          precision := if body.contains '.' || body.contains 'p' then none else some 0 }
      else
        let (width, precision) := extent body
        { value, width, precision := some precision }
    | _ => { value, width := 0, precision := if body.contains 'p' then none else some 0 }

/-! ## Formats -/

/-- How numbers are written: what stands in front, the field, its letter, and what follows. -/
structure Form where
  front : Octets := []
  field : Format.Field := {}
  letter : Char := 'g'
  back : Octets := []

/-- A number in a form. -/
def Form.show (f : Form) (x : Numeral) : Octets :=
  f.front ++ f.field.numeral Numeral.extended f.letter x ++ f.back

/-- A text in which two percent signs stand for one, up to a lone one, and what is from there on. -/
def plainText : Octets → Octets × Octets
  | [] => ([], [])
  | '%' :: '%' :: rest =>
    let r := plainText rest
    ('%' :: r.1, r.2)
  | '%' :: rest => ([], '%' :: rest)
  | c :: rest =>
    let r := plainText rest
    (c :: r.1, r.2)

/-- The form that a format asks for, or what is wrong with it. -/
def form? (format : Octets) : Except Octets Form :=
  let wrong (what : String) : Except Octets Form :=
    .error ("format ".toList ++ quoted format ++ what.toList)
  match plainText format with
  | (_, []) => wrong " has no % directive"
  | (front, directive) =>
    let rest := directive.drop 1
    let signs := rest.takeWhile fun c => "-+#0 '".toList.contains c
    let rest := rest.drop signs.length
    let width := rest.takeWhile isDigit
    let rest := rest.drop width.length
    let hasPoint := rest.head? = some '.'
    let places := if hasPoint then (rest.drop 1).takeWhile isDigit else []
    let rest := rest.drop (if hasPoint then 1 + places.length else 0)
    let rest := if rest.head? = some 'L' then rest.drop 1 else rest
    match rest with
    | [] => wrong " ends in %"
    | letter :: rest =>
      if !"efgaEFGA".toList.contains letter then
        wrong (" has unknown %" ++ String.singleton letter ++ " directive")
      else
        match plainText rest with
        | (back, []) =>
          let field := Format.withFlags (signs.filter (· ≠ '\'')) {}
          .ok { front, letter, back
                field := { field with
                  width := numberIn 10 width
                  precision := if hasPoint then some (numberIn 10 places) else none } }
        | _ => wrong " has too many % directives"

/-- The form for numbers between others, in fields of one width or not. -/
def defaultForm (first step last : Given) (equal : Bool) : Form :=
  match first.precision, step.precision, last.precision with
  | some a, some b, some c =>
    let places := max a b
    let field : Format.Field := { precision := some places }
    let point (precision : Nat) : Int := if precision = 0 && places ≠ 0 then 1 else 0
    let firstWidth := first.width + (places - a) + point a
    let lastWidth := last.width + ((places : Int) - c) + point c -
      (if c ≠ 0 && places = 0 then 1 else 0)
    { letter := 'f'
      field := if equal then { field with
          zeros := true, width := (max firstWidth lastWidth).toNat } else field }
  | _, _, _ => {}

/-! ## Sequences -/

/-- The number of numbers that are written at most. -/
def countLimit : Nat := 1000000

/-- Whole numbers from one to another. -/
def wholes (first step last : Nat) : List Octets :=
  if last < first then []
  else (List.range (min countLimit ((last - first) / max 1 step + 1))).map fun i =>
    decimal (first + i * step)

/-- The numbers from one on in a form, as long as they do not pass another one. -/
def fractions (f : Form) (first step last : Numeral) : Nat → Nat → Octets → List Octets
  | 0, _, _ => []
  | n + 1, i, before =>
    let x := stepped first step i
    let text := f.show x
    let passed := if step.isNegative then isLess x last else isLess last x
    if !passed then text :: fractions f first step last n (i + 1) text
    else
      let own := (text.drop f.front.length).take
        (text.length - f.front.length - f.back.length)
      let isLast := i ≠ 0 && ((Numeral.ofOctets? own).map rounded).any fun y =>
        !isLess y last && !isLess last y
      if isLast && text ≠ before then [text] else []

/-- The number is whole and not negative. -/
def whole? (x : Given) : Option Nat :=
  match x.value, x.precision with
  | .finite negative num den, some 0 =>
    if negative || num % den ≠ 0 then none else some (num / den)
  | _, _ => none

/-- The numbers from one to another in steps, each as it is written. -/
def numbers (form : Option Form) (equal : Bool) (first step last : Given) : List Octets :=
  let exact := match form, equal, whole? first, whole? step, whole? last with
    | none, false, some a, some b, some c => if b = 0 then none else some (wholes a b c)
    | _, _, _, _, _ => none
  match exact with
  | some texts => texts
  | none =>
    let form := form.getD (defaultForm first step last equal)
    fractions form first.value step.value last.value countLimit 0 []

/-- The numbers that arguments ask for: from which on, in which steps, and up to which. -/
def bounds (given : List Given) : Option (Given × Given × Given) :=
  let one : Given := { value := .ofNat 1 }
  match given with
  | [last] => some (one, one, last)
  | [first, last] => some (first, one, last)
  | [first, step, last] => some (first, step, last)
  | _ => none

/-- A complaint with a hint, and how the utility ends. -/
def refuse (why : Octets) : Run Nat := do
  complain "seq" why
  hint "seq"
  return 1

/-- Write numbers in order. -/
def run : Action := fun args =>
  withOptions { name := "seq", letters := "f:s:w", inFront := true, negatives := true
                longs := [("equal-width", 'w'), ("format", 'f'), ("separator", 's')] } args
    fun choices operands => do
    if operands.isEmpty then refuse "missing operand".toList
    else if 3 < operands.length then
      refuse ("extra operand ".toList ++ quoted (operands[3]?.getD []))
    else
      let equal := chosen choices "w"
      match (valueOf? choices "f").map form? with
      | some (.error why) =>
        complain "seq" why
        return 1
      | asked =>
        let form := asked.bind Except.toOption
        if form.isSome && equal then
          refuse "format string may not be specified when printing equal width strings".toList
        else
          let isBad (cs : Octets) : Bool :=
            match given? cs with
            | some g => (g.value matches .notANumber _)
            | none => true
          match operands.find? isBad, bounds (operands.filterMap given?) with
          | some bad, _ =>
            refuse ((if (given? bad).isSome then "invalid 'not-a-number' argument: "
              else "invalid floating point argument: ").toList ++ quoted bad)
          | none, none => return 0
          | none, some (first, step, last) =>
            if whole? step = some 0 || (quotient? step.value).any (·.1 = 0) then
              refuse ("invalid Zero increment value: ".toList ++ quoted (operands[1]?.getD []))
            else
              let texts := numbers form equal first step last
              let separator := (valueOf? choices "s").getD ['\n']
              if !texts.isEmpty then Run.write (Octets.join separator texts ++ ['\n'])
              return 0

end BulkSuppress.Shell.Utility.Sequence
