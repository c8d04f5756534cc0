/-
  The shortest decimal that reads back as a given binary fraction. A 64-bit floating point number
  stands for all reals that round to it; of the decimals among these the one with the fewest
  digits is taken, of several such the one nearest to the number. Of two that are equally near,
  the style of writing takes one.
-/

namespace BulkSuppress

/-- The number `digits * 10 ^ exponent`. -/
structure Decimal where
  digits : Nat
  exponent : Int
deriving DecidableEq, Repr

namespace Decimal

/-- A positive binary fraction `mantissa * 2 ^ exponent`, as 64-bit floating point has them. -/
structure Binary where
  mantissa : Nat
  exponent : Int
  /-- The number below is half as far away as the number above. -/
  closerBelow : Bool
deriving DecidableEq, Repr

/-- The parts of the bits of a positive finite number. -/
def Binary.ofBits (bits : Nat) : Binary :=
  let fraction : Nat := bits % Nat.pow 2 52
  let biased : Nat := bits / Nat.pow 2 52 % Nat.pow 2 11
  if biased = 0 then ⟨fraction, -1074, false⟩
  else ⟨Nat.pow 2 52 + fraction, (biased : Int) - 1075, fraction == 0 && biased != 1⟩

/-- A quotient of natural numbers. -/
structure Quotient where
  num : Nat
  den : Nat

/-- The quotient times a power of a base. -/
def Quotient.shift (base : Nat) (by' : Int) (x : Quotient) : Quotient :=
  if 0 ≤ by' then ⟨x.num * Nat.pow base by'.toNat, x.den⟩
  else ⟨x.num, x.den * Nat.pow base (-by').toNat⟩

/-- The number of decimal places to move to the left until the quotient is at least one. -/
def placesBelowOne : Nat → Quotient → Nat
  | 0, _ => 0
  | fuel + 1, x => if x.den ≤ x.num then 0 else placesBelowOne fuel ⟨x.num * 10, x.den⟩ + 1

/-- The exponent of the leading decimal digit of a positive quotient. -/
def leadingExponent (x : Quotient) : Int :=
  if x.den ≤ x.num then ((Nat.toDigits 10 (x.num / x.den)).length : Int) - 1
  else -(placesBelowOne 400 x : Int)

/-- `digits` lies between the ends of the interval, which belong to it or not. -/
def isInside (ends : Bool) (low high : Quotient) (digits : Nat) : Bool :=
  if ends then low.num ≤ digits * low.den && digits * high.den ≤ high.num
  else low.num < digits * low.den && digits * high.den < high.num

/-- Which of two equally near points of a grid is taken. -/
inductive Tie where
  /-- The one with an even last digit. -/
  | toEven
  /-- The larger one. -/
  | up
deriving DecidableEq, Repr

/-- Of two equally near points, of which `below` is the smaller one, the smaller one is taken. -/
def Tie.takesBelow (tie : Tie) (below : Nat) : Bool :=
  match tie with
  | .toEven => below % 2 == 0
  | .up => false

/-- The better of the two grid points around a value, if one of them lies in the interval. -/
def bestOf (tie : Tie) (ends : Bool) (low value high : Quotient) : Option Nat :=
  let below := value.num / value.den
  match isInside ends low high below, isInside ends low high (below + 1) with
  | true, true =>
    let twice := 2 * (value.num % value.den)
    if twice < value.den || (twice == value.den && tie.takesBelow below) then some below
    else some (below + 1)
  | true, false => some below
  | false, true => some (below + 1)
  | false, false => none

/-- The digits without zeros at their end. -/
def trimZeros : Nat → Decimal → Decimal
  | 0, x => x
  | fuel + 1, x =>
    if x.digits != 0 && x.digits % 10 == 0 then trimZeros fuel ⟨x.digits / 10, x.exponent + 1⟩
    else x

/-- The first grid of at least `17 - left` digits that has a point in the interval. -/
def search (tie : Tie) (ends : Bool) (low value high : Quotient) (lead : Int) : Nat → Decimal
  | 0 => ⟨value.num / value.den, 0⟩
  | left + 1 =>
    let grid := lead - (16 - left : Nat)
    let scale := Quotient.shift 10 (-grid)
    match bestOf tie ends (scale low) (scale value) (scale high) with
    | some digits => trimZeros 20 ⟨digits, grid⟩
    | none => search tie ends low value high lead left

/-- The shortest decimal of a positive binary fraction. -/
def shortest (tie : Tie) (b : Binary) : Decimal :=
  let at' (quarters : Nat) : Quotient := Quotient.shift 2 (b.exponent - 2) ⟨quarters, 1⟩
  let value := at' (4 * b.mantissa)
  let low := at' (4 * b.mantissa - (if b.closerBelow then 1 else 2))
  let high := at' (4 * b.mantissa + 2)
  search tie (b.mantissa % 2 == 0) low value high (leadingExponent value) 17

/-! ## Writing -/

/-- The decimal digits of a number. -/
def digitsOf (n : Nat) : List Char := Nat.toDigits 10 n

/-- The decimal without an exponent, with at least one digit on either side of the point. -/
def positional (x : Decimal) : String :=
  let ds := digitsOf x.digits
  if 0 ≤ x.exponent then String.ofList (ds ++ List.replicate x.exponent.toNat '0' ++ ['.', '0'])
  else
    let places := (-x.exponent).toNat
    if places < ds.length then
      String.ofList (ds.take (ds.length - places) ++ '.' :: ds.drop (ds.length - places))
    else String.ofList ('0' :: '.' :: List.replicate (places - ds.length) '0' ++ ds)

/-- The decimal with one digit before the point and an exponent with its sign. -/
def scientific (x : Decimal) : String :=
  let ds := digitsOf x.digits
  let point := x.exponent + (ds.length - 1 : Nat)
  let mantissa := match ds with
    | d :: rest@(_ :: _) => d :: '.' :: rest
    | _ => ds
  String.ofList mantissa ++ (if 0 ≤ point then "e+" else "e-") ++ toString point.natAbs

end Decimal

/-- How numbers with a fractional part are written. -/
inductive FloatStyle where
  /-- Never with an exponent. -/
  | plain
  /-- With an exponent from 10^16 on and below 10^-5. -/
  | compact
deriving DecidableEq, Repr

/-- Which of two equally near decimals a style takes. -/
def FloatStyle.tie : FloatStyle → Decimal.Tie
  | .plain => .up
  | .compact => .toEven

/-- The text of a positive decimal in a style. -/
def FloatStyle.write (style : FloatStyle) (x : Decimal) : String :=
  match style with
  | .plain => x.positional
  | .compact =>
    let point := x.exponent + (Decimal.digitsOf x.digits).length
    if -5 < point && point ≤ 16 then x.positional else x.scientific

/-- The text of a floating point number in a style. -/
def FloatStyle.text (style : FloatStyle) (f : Float) : String :=
  let bits := f.toBits.toNat
  let sign := if bits / Nat.pow 2 63 = 1 then "-" else ""
  let magnitude := bits % Nat.pow 2 63
  if magnitude / Nat.pow 2 52 = Nat.pow 2 11 - 1 then
    if magnitude % Nat.pow 2 52 = 0 then sign ++ "inf" else "NaN"
  else if magnitude = 0 then sign ++ "0.0"
  else sign ++ style.write (Decimal.shortest style.tie (.ofBits magnitude))

end BulkSuppress
