import BulkSuppress.Shell.Octets

/-
  Arrays of shell scripts. The elements of an array have numbers, some of which can be missing, or
  any texts for places. Texts are listed by the groups that their octets put them into.
-/

namespace BulkSuppress.Shell

/-- The group of a text among so many, for which every octet counts. -/
def bucket (groups : Nat) (cs : Octets) : Nat :=
  let step (h : Nat) (c : Char) : Nat :=
    let spread := h * 16777619 % 4294967296
    spread ^^^ (if c.toNat < 128 then c.toNat else 4294967040 ||| c.toNat)
  cs.foldl step 2166136261 % groups

/-- The number of groups of the places of elements, and of the names of variables. -/
def placeGroups : Nat := 1024

/-- The elements of an array. -/
inductive Elements where
  /-- By numbers, in ascending order. -/
  | listed (items : List (Nat × Octets))
  /-- By texts, those that came last in front. -/
  | keyed (items : List (Octets × Octets))

namespace Elements

/-- A list with another element at a number. -/
def withNumber (n : Nat) (value : Octets) : List (Nat × Octets) → List (Nat × Octets)
  | [] => [(n, value)]
  | (k, v) :: rest =>
    if k < n then (k, v) :: withNumber n value rest
    else if k = n then (n, value) :: rest
    else (n, value) :: (k, v) :: rest

/-- A table with another element at a text. -/
def withText (key value : Octets) (items : List (Octets × Octets)) : List (Octets × Octets) :=
  if (items.lookup key).isSome then items.map fun e => if e.1 = key then (key, value) else e
  else (key, value) :: items

/-- Texts as the elements of a list. -/
def ofList (values : List Octets) : Elements :=
  .listed ((List.range values.length).zip values)

/-- The elements with the spelling of their places, in order. -/
def toList : Elements → List (Octets × Octets)
  | .listed items => items.map fun e => ((toString e.1).toList, e.2)
  | .keyed items => items.mergeSort fun a b => bucket placeGroups a.1 ≤ bucket placeGroups b.1

/-- The number behind that of the last element. -/
def limit : Elements → Nat
  | .listed items => (items.getLast?.map (·.1 + 1)).getD 0
  | .keyed _ => 0

/-- The element at a place. -/
def get? (e : Elements) (place : Octets) : Option Octets :=
  match e with
  | .listed items => (decimal? place).bind fun n => items.lookup n
  | .keyed items => items.lookup place

/-- The elements with another one at a place. -/
def insert (e : Elements) (place value : Octets) : Elements :=
  match e with
  | .listed items => .listed (withNumber ((decimal? place).getD 0) value items)
  | .keyed items => .keyed (withText place value items)

/-- The elements without the one at a place. -/
def erase (e : Elements) (place : Octets) : Elements :=
  match e with
  | .listed items => .listed (items.filter fun x => some x.1 ≠ decimal? place)
  | .keyed items => .keyed (items.filter fun x => x.1 ≠ place)

/-- The places are numbers. -/
def isListed : Elements → Bool
  | .listed _ => true
  | .keyed _ => false

end Elements
end BulkSuppress.Shell
