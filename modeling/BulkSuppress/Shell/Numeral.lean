import BulkSuppress.Shell.Octets

/-
  Numbers with fractions as scripts spell them. A number is held exactly, as a quotient; rounding to
  the numbers that a binary format has is an operation of its own, and so is writing, which rounds
  to decimal places, a half to the even neighbour.
-/

namespace BulkSuppress.Shell

/-- A number with its sign, or what stands for none. -/
inductive Numeral where
  | finite (negative : Bool) (num den : Nat)
  | infinite (negative : Bool)
  | notANumber (negative : Bool)
deriving DecidableEq, Repr

namespace Numeral

instance : Inhabited Numeral := ⟨.finite false 0 1⟩

/-- A natural number. -/
def ofNat (n : Nat) : Numeral := .finite false n 1

/-- The sign is minus. -/
def isNegative : Numeral → Bool
  | .finite negative _ _ | .infinite negative | .notANumber negative => negative

/-- The number with a sign. -/
def withSign (negative : Bool) : Numeral → Numeral
  | .finite _ num den => .finite negative num den
  | .infinite _ => .infinite negative
  | .notANumber _ => .notANumber negative

/-- The nearest natural number to a quotient; of two, the even one. -/
def nearest (num den : Nat) : Nat :=
  let below := num / den
  let twice := 2 * (num % den)
  if twice < den || (twice = den && below % 2 = 0) then below else below + 1

/-- The quotient times a power of a base. -/
def scaled (base : Nat) (num den : Nat) (by' : Int) : Nat × Nat :=
  if 0 ≤ by' then (num * Nat.pow base by'.toNat, den) else (num, den * Nat.pow base (-by').toNat)

/-! ## Reading -/

/-- The largest size of an exponent that is told apart from larger ones. -/
def exponentLimit : Nat := 20000

/-- The exponent behind a letter at the front, and the number of characters that it takes. -/
def exponentAt (letter : Char) (cs : Octets) : Int × Nat :=
  match cs with
  | c :: rest =>
    if c.toLower ≠ letter then (0, 0)
    else
      let (negative, digits, length) := match rest with
        | '-' :: ds => (true, ds, 2)
        | '+' :: ds => (false, ds, 2)
        | ds => (false, ds, 1)
      let spelling := digits.takeWhile isDigit
      if spelling.isEmpty then (0, 0)
      else
        let n : Int := min exponentLimit (numberIn 10 (spelling.take 9))
        (if negative then -n else n, length + spelling.length)
  | [] => (0, 0)

/-- The number at the front without a sign, and the number of characters that it takes. -/
def magnitudeAt (base : Nat) (letter : Char) (power : Nat) (cs : Octets) : Numeral × Nat :=
  let digit (c : Char) : Bool := (digitIn? base c).isSome
  let whole := cs.takeWhile digit
  let behind := cs.drop whole.length
  let fraction := if behind.head? = some '.' then (behind.drop 1).takeWhile digit else []
  if whole.isEmpty && fraction.isEmpty then (.finite false 0 1, 0)
  else
    let point := if behind.head? = some '.' then 1 + fraction.length else 0
    let length := whole.length + point
    let (exponent, more) := exponentAt letter (cs.drop length)
    let (num, den) := scaled (if base = 16 then 2 else 10)
      (numberIn base (whole ++ fraction)) 1 (exponent - power * fraction.length)
    (.finite false num den, length + more)

/-- The number at the front of a text, and the number of characters up to its end, if any. -/
def read (cs : Octets) : Numeral × Nat :=
  let body := cs.dropWhile fun c => c = ' ' || ('\t' ≤ c && c ≤ '\r')
  let (negative, rest) := match body with
    | '-' :: ds => (true, ds)
    | '+' :: ds => (false, ds)
    | ds => (false, ds)
  let lower := rest.map Char.toLower
  let starts (word : String) : Bool := word.toList.isPrefixOf lower
  let (n, length) : Numeral × Nat :=
    if starts "infinity" then (.infinite false, 8)
    else if starts "inf" then (.infinite false, 3)
    else if starts "nan" then (.notANumber false, 3)
    else
      let hexadecimal := if starts "0x" then magnitudeAt 16 'p' 4 (rest.drop 2) else default
      if hexadecimal.2 ≠ 0 then (hexadecimal.1, hexadecimal.2 + 2) else magnitudeAt 10 'e' 1 rest
  if length = 0 then (.finite false 0 1, 0)
  else (n.withSign negative, cs.length - rest.length + length)

/-- The number that a text spells as a whole. -/
def ofOctets? (cs : Octets) : Option Numeral :=
  let (n, length) := read cs
  if length = 0 || length < cs.length then none else some n

/-! ## Binary formats -/

/-- A format for binary fractions: the bits of its mantissas and the bounds of their exponents. -/
structure Binary where
  bits : Nat
  least : Int
  most : Int
  /-- The bits in front of the point when it is spelled in base sixteen. -/
  leadingBits : Nat

/-- Fractions of 64 bits. -/
def double : Binary := ⟨53, -1074, 971, 1⟩

/-- Fractions of 80 bits. -/
def extended : Binary := ⟨64, -16445, 16320, 4⟩

/-- The exponent of the leading bit of a positive quotient. -/
def leadingBit (num den : Nat) : Int :=
  let guess : Int := (Nat.log2 num : Int) - Nat.log2 den
  let (a, b) := scaled 2 num den (-guess)
  if a < b then guess - 1 else guess

/-- The mantissa and the exponent of the number of a format that is nearest to a quotient. -/
def Binary.parts (f : Binary) (num den : Nat) : Nat × Int :=
  if num = 0 then (0, f.least)
  else
    let exponent := max (leadingBit num den - (f.bits - 1)) f.least
    let (a, b) := scaled 2 num den (-exponent)
    (nearest a b, exponent)

/-- The nearest number of a format, and whether it is out of the range of exact ones. -/
def rounded (f : Binary) : Numeral → Numeral × Bool
  | .finite negative num den =>
    let (mantissa, exponent) := f.parts num den
    let (a, b) := scaled 2 mantissa 1 exponent
    let limit := Nat.pow 2 (f.most + f.bits).toNat
    if limit ≤ a / b then (.infinite negative, true)
    else
      let isSmall := num ≠ 0 && leadingBit num den < f.least + (f.bits - 1)
      (.finite negative a b, isSmall && a * den ≠ num * b)
  | x => (x, false)

/-! ## Writing -/

/-- The exponent of the leading decimal digit of a quotient. -/
def leadingDigit (num den : Nat) : Int :=
  if num = 0 then 0
  else if den ≤ num then ((Nat.toDigits 10 (num / den)).length : Int) - 1
  else
    let places := (Nat.toDigits 10 (den / num)).length
    if num * Nat.pow 10 (places - 1) = den then -((places : Int) - 1) else -(places : Int)

/-- Digits with a point in front of the last ones; it is left out in front of none, if it may. -/
def withPoint (places : Nat) (keepsPoint : Bool) (digits : Octets) : Octets :=
  let (whole, fraction) := digits.splitAt (digits.length - places)
  whole ++ (if fraction.isEmpty && !keepsPoint then [] else '.' :: fraction)

/-- A quotient with so many decimal places. -/
def fixed (num den places : Nat) (keepsPoint : Bool) : Octets :=
  let digits := Nat.toDigits 10 (nearest (num * Nat.pow 10 places) den)
  withPoint places keepsPoint (List.replicate (places + 1 - digits.length) '0' ++ digits)

/-- The digits of a quotient, of which so many stand behind the first one, and its exponent. -/
def leadingDigits (num den places : Nat) : Nat × Int :=
  let k := leadingDigit num den
  let (a, b) := scaled 10 num den (places - k)
  let n := nearest a b
  if Nat.pow 10 (places + 1) ≤ n then (n / 10, k + 1) else (n, k)

/-- An exponent with a letter in front and at least so many digits. -/
def exponentText (letter : Char) (width : Nat) (k : Int) : Octets :=
  let digits := Nat.toDigits 10 k.natAbs
  [letter, if k < 0 then '-' else '+'] ++ List.replicate (width - digits.length) '0' ++ digits

/-- A quotient as digits, of which one stands in front of the point, and an exponent. -/
def scientific (num den places : Nat) (keepsPoint : Bool) : Octets :=
  let (n, k) := leadingDigits num den places
  let digits := Nat.toDigits 10 n
  withPoint places keepsPoint (List.replicate (places + 1 - digits.length) '0' ++ digits) ++
    exponentText 'e' 2 k

/-- Digits without zeros at the end of their fraction. -/
def trimmed (cs : Octets) : Octets :=
  let front := cs.takeWhile (· ≠ 'e')
  let short := if front.contains '.' then
      let kept := (front.reverse.dropWhile (· = '0')).reverse
      if kept.getLast? = some '.' then kept.dropLast else kept
    else front
  short ++ cs.drop front.length

/-- A quotient with so many digits, with an exponent if it is large or small. -/
def general (num den digits : Nat) (keepsZeros : Bool) : Octets :=
  let digits := max 1 digits
  let k := (leadingDigits num den (digits - 1)).2
  let shown := if k < -4 || (digits : Int) ≤ k then scientific num den (digits - 1) keepsZeros
    else fixed num den ((digits : Int) - 1 - k).toNat keepsZeros
  if keepsZeros then shown else trimmed shown

/-- A quotient in base sixteen with an exponent of two, as a format has it. -/
def hexadecimal (f : Binary) (num den : Nat) (places : Option Nat) (keepsPoint : Bool) : Octets :=
  let fraction := (f.bits - f.leadingBits) / 4
  let (mantissa, exponent) := f.parts num den
  let missing := if mantissa = 0 then 0 else f.bits - 1 - Nat.log2 mantissa
  let mantissa := mantissa * Nat.pow 2 missing
  let exponent : Int := if mantissa = 0 then 0 else exponent - missing + 4 * fraction
  let (mantissa, shownPlaces) := match places with
    | some n => if n < fraction then (nearest mantissa (Nat.pow 16 (fraction - n)), n)
        else (mantissa * Nat.pow 16 (n - fraction), n)
    | none => (mantissa, fraction)
  let digits := Nat.toDigits 16 mantissa
  let digits := List.replicate (shownPlaces + 1 - digits.length) '0' ++ digits
  let whole := digits.take (digits.length - shownPlaces)
  let behind := digits.drop whole.length
  let behind := if places.isSome then behind
    else (behind.reverse.dropWhile (· = '0')).reverse
  "0x".toList ++ whole ++ (if behind.isEmpty && !keepsPoint then [] else '.' :: behind) ++
    exponentText 'p' 1 exponent

/-- How a number is written. -/
inductive Shape where
  | fixed
  | scientific
  | general
  | hexadecimal
deriving DecidableEq, Repr

/-- A number without its sign in a shape, with so many digits if that is told. -/
def written (f : Binary) (shape : Shape) (precision : Option Nat) (alternate : Bool) :
    Numeral → Octets
  | .infinite _ => "inf".toList
  | .notANumber _ => "nan".toList
  | .finite _ num den =>
    let digits := precision.getD 6
    match shape with
    | .fixed => fixed num den digits alternate
    | .scientific => scientific num den digits alternate
    | .general => general num den digits alternate
    | .hexadecimal => hexadecimal f num den precision alternate

end Numeral
end BulkSuppress.Shell
