import BulkSuppress.Shell.Utility.Arguments

/-
  Rights as utilities spell them. A mode is a number in octal digits, or changes in letters: who is
  concerned, a sign, and what is given, taken or set. Changes apply to rights that are there, and
  depend on whether these are the rights of a directory.
-/

namespace BulkSuppress.Shell.Utility

/-- All bits of rights. -/
def allRights : Nat := 4095

/-- The bits that mean something else for directories. -/
def ownerBits : Nat := 3072

/-- Where the value of a change comes from. -/
inductive RightsValue where
  | plain
  /-- From the rights that some users have. -/
  | copied
  /-- Running is given to directories, and to what somebody can run. -/
  | runnable
deriving DecidableEq, Repr

/-- A change of rights. -/
structure RightsChange where
  sign : Char
  /-- The bits that are concerned; none means those that are not kept back. -/
  concerned : Nat
  value : Nat
  /-- The bits that are spelled out. -/
  named : Nat
  kind : RightsValue := .plain
deriving DecidableEq, Repr

namespace RightsChange

/-- The bits of one number without those of another one. -/
def minus (a b : Nat) : Nat := a ^^^ (a &&& b)

/-- The bits of the users that a letter stands for. -/
def usersOf? : Char → Option Nat
  | 'u' => some (2048 ||| 448)
  | 'g' => some (1024 ||| 56)
  | 'o' => some (512 ||| 7)
  | 'a' => some allRights
  | _ => none

/-- The bits that a letter gives to all users. -/
def bitsOf? : Char → Option Nat
  | 'r' => some 292
  | 'w' => some 146
  | 'x' => some 73
  | 'X' => some 0
  | 's' => some ownerBits
  | 't' => some 512
  | _ => none

/-- The number of octal digits, if it is one of rights, and what follows it. -/
def octal? (cs : Octets) : Option (Nat × Octets) :=
  let digits := cs.takeWhile fun c => (digitIn? 8 c).isSome
  let n := numberIn 8 digits
  if n ≤ allRights then some (n, cs.drop digits.length) else none

/-- The changes that signs and letters behind the concerned users spell. -/
def signed (concerned : Nat) : Nat → Octets → Option (List RightsChange × Octets)
  | n + 1, sign :: cs =>
    let isSign (c : Char) : Bool := c = '=' || c = '+' || c = '-'
    if !isSign sign then none
    else
      let own : Option (RightsChange × Octets) := match cs with
        | 'u' :: rest => some ({ sign, concerned, value := 448, named := 448, kind := .copied }, rest)
        | 'g' :: rest => some ({ sign, concerned, value := 56, named := 56, kind := .copied }, rest)
        | 'o' :: rest => some ({ sign, concerned, value := 7, named := 7, kind := .copied }, rest)
        | cs =>
          if cs.head?.any fun c => (digitIn? 8 c).isSome then
            match octal? cs with
            | some (value, rest) =>
              if concerned ≠ 0 || !(rest.isEmpty || rest.head? = some ',') then none
              else some ({ sign, concerned := allRights, value, named := allRights }, rest)
            | none => none
          else
            let letters := cs.takeWhile fun c => (bitsOf? c).isSome
            let value := (letters.filterMap bitsOf?).foldl (· ||| ·) 0
            let kind := if letters.contains 'X' then .runnable else .plain
            some ({ sign, concerned, value, named := value, kind }, cs.drop letters.length)
      match own with
      | none => none
      | some (change, rest) =>
        let change := if concerned = 0 then change
          else { change with named := concerned &&& change.value }
        if rest.head?.any isSign then
          (signed concerned n rest).map fun more => (change :: more.1, more.2)
        else some ([change], rest)
  | _, _ => none

/-- The changes that clauses with commas between them spell. -/
def clauses : Nat → Octets → Option (List RightsChange)
  | 0, _ => none
  | n + 1, cs =>
    let users := cs.takeWhile fun c => (usersOf? c).isSome
    let concerned := (users.filterMap usersOf?).foldl (· ||| ·) 0
    match signed concerned (cs.length + 1) (cs.drop users.length) with
    | some (changes, []) => some changes
    | some (changes, ',' :: rest) => (clauses n rest).map (changes ++ ·)
    | _ => none

/-- The changes that a mode stands for, if it is one. -/
def ofMode? (cs : Octets) : Option (List RightsChange) :=
  if cs.head?.any fun c => (digitIn? 8 c).isSome then
    match octal? cs with
    | some (value, []) =>
      let named := if cs.length < 5 then (value &&& ownerBits) ||| 1023 else allRights
      some [{ sign := '=', concerned := allRights, value, named }]
    | _ => none
  else clauses (cs.length + 1) cs

/-- Rights after a change, where some bits are kept back from all users. -/
def applied (c : RightsChange) (isDirectory : Bool) (mask rights : Nat) : Nat :=
  let left := if isDirectory then minus ownerBits c.named else 0
  let value := match c.kind with
    | .plain => c.value
    | .copied =>
      let own := c.value &&& rights
      [292, 146, 73].foldl (fun v bits => if own &&& bits ≠ 0 then v ||| bits else v) own
    | .runnable => if isDirectory || rights &&& 73 ≠ 0 then c.value ||| 73 else c.value
  let value := minus (if c.concerned ≠ 0 then value &&& c.concerned else minus value mask) left
  match c.sign with
  | '=' =>
    let kept := (if c.concerned ≠ 0 then minus allRights c.concerned else 0) ||| left
    (rights &&& kept) ||| value
  | '+' => rights ||| value
  | _ => minus rights value

/-- Rights after changes. -/
def appliedAll (changes : List RightsChange) (isDirectory : Bool) (mask rights : Nat) : Nat :=
  changes.foldl (fun rights c => c.applied isDirectory mask rights) rights

end RightsChange

/-- Rights as letters. -/
def rights (mode : Nat) : Octets :=
  let has (n : Nat) : Bool := mode / n % 2 = 1
  let three (n special : Nat) (runs stays : Char) : Octets :=
    let last := if has special then (if has n then runs else stays) else if has n then 'x' else '-'
    [if has (4 * n) then 'r' else '-', if has (2 * n) then 'w' else '-', last]
  three 64 2048 's' 'S' ++ three 8 1024 's' 'S' ++ three 1 512 't' 'T'

end BulkSuppress.Shell.Utility
