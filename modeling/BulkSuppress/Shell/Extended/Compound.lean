import BulkSuppress.Shell.Extended.Calling

/-
  Commands of the extended dialect that hold others: calculations, loops that count, menus, and the
  time that a command takes.
-/

namespace BulkSuppress.Shell

/-- The script is to end at failures. -/
def Machine.isFailing (m : Machine) : Bool := m.has 'e'

namespace Extended

section

variable (run : Command → Run Unit)

/-- Do what is to be done about a failure; functions and copies of the shell only if that is said. -/
def runFailure : Run Unit := do
  let m ← get
  if (m.frames.isEmpty && m.copies = 0) || m.isChosen 'E' then runEvent run "ERR"

/-! ## Calculations -/

/-- The value of a calculation as a part of something named; nothing if it makes no sense. -/
def valueFor? (name : String) (body : Word) : Run (Option Int) := do
  let before := (← get).builtin
  let text := octetsOf (← layOut run { parts := false } body)
  traced run fun _ => "(( ".toList ++ text ++ " ))".toList
  modify fun m => { m with builtin := some name.toList }
  let r ← (ExceptT.lift (ExceptT.run (Calculation.value text)) : Run (Except Interrupt Int))
  modify fun m => { m with builtin := before }
  match r with
  | .ok n => return some n
  | .error .discarded =>
    Run.status 1
    return none
  | .error e => throw e

/-- Run a calculation, which succeeds if it is not zero. -/
def calculation (body : Word) : Run Unit := do
  match ← valueFor? run "((" body with
  | some n => Run.status (if n = 0 then 1 else 0)
  | none => return

/-- A calculation of a loop is not zero; an empty one never is. Nothing if it makes no sense. -/
def counted? (body : Word) : Run (Option Bool) := do
  match body with
  | [] => return some true
  | body => return (← valueFor? run "((" body).map fun n => n ≠ 0

/-! ## Loops -/

/-- Words as a script spells them. -/
def spelledWords (ws : List Word) : Octets := Octets.join [' '] (ws.map spellWord)

/-- Set the variable of a loop; the answer tells whether that was possible. -/
def nextItem (name : String) (items : List Word) (item : Octets) : Run Bool := do
  traced run fun _ => "for ".toList ++ name.toList ++ " in ".toList ++ spelledWords items
  let before ← get
  let slot := before.slot ⟨name, none⟩
  if (before.binding? slot.name).any (·.readOnly) then
    refuse (name.toList ++ ": readonly variable".toList)
    return false
  else
    Setting.make { slot, given := .text item }
    return true

/-- Show the subject of a choice, if that is asked for. -/
def showChoice (subject : Word) : Run Unit := do
  if (← get).dialect = .extended then
    traced run fun _ => "case ".toList ++ spellWord subject ++ " in".toList

/-! ## Menus -/

/-- The width of the lines that menus are written in. -/
def menuWidth : Nat := 80

/-- The number of columns between tabs. -/
def tabWidth : Nat := 8

/-- Blanks and tabs from one column to another one. -/
def indented : Nat → (column target : Nat) → Octets
  | 0, _, _ => []
  | n + 1, column, target =>
    if target ≤ column then []
    else if column / tabWidth < target / tabWidth then
      '\t' :: indented n (column / tabWidth * tabWidth + tabWidth) target
    else ' ' :: indented n (column + 1) target

/-- Items with their numbers in columns. -/
def menuText (items : List Octets) : Octets :=
  let count := items.length
  let digits (n : Nat) : Nat := (toString n).length
  let widest := ((items.map List.length).max?).getD 0
  let width := widest + digits count + 4
  let columns := max 1 (menuWidth / width)
  let rows := (count + columns - 1) / columns
  let columns := (count + rows - 1) / rows
  let (rows, columns) := if rows = 1 then (columns, 1) else (rows, columns)
  let firstWidth := digits rows
  let cell (row column : Nat) : Octets :=
    let index := row + column * rows
    match items[index]? with
    | none => []
    | some text =>
      let number := (toString (index + 1)).toList
      let numberWidth := if column = 0 then firstWidth else digits count
      let own := List.replicate (numberWidth - number.length) ' ' ++ number ++ [')', ' '] ++ text
      let isLast := count ≤ index + rows
      let used := column * width + own.length
      own ++ if isLast then [] else indented (width + 1) used ((column + 1) * width)
  (List.range rows).flatMap fun row =>
    (List.range columns).flatMap (cell row) ++ ['\n']

/-- Write a menu, and read the number of an item; nothing if there is nothing more to read. -/
def chosenItem (items : List Octets) (showsItems : Bool) : Run (Option Octets) := do
  let ask : Run Unit := do
    let _ ← Run.writeTo 2 (((← get).value? "PS3").getD "#? ".toList)
  if showsItems then
    let _ ← Run.writeTo 2 (menuText items)
  ask
  match (← get).channel? 0 with
  | none => return none
  | some (n, _) =>
    let rest := (← get).unread n
    if rest.isEmpty then
      Run.write ['\n']
      return none
    else
      let line := rest.takeWhile (· ≠ '\n')
      modify (·.afterReading n (line.length + 1))
      let blank (c : Char) : Bool := c = ' ' || c = '\t'
      let trimmed := ((line.dropWhile blank).reverse.dropWhile blank).reverse
      Run.assign "REPLY" trimmed
      return some (((decimal? trimmed).bind fun k => if k = 0 then none else items[k - 1]?).getD [])

end

/-! ## Times -/

/-- Tell the time that a command took, which is none that counts. -/
def tellTime (isBrief : Bool) : Run Unit := do
  let m ← get
  let text := if isBrief then "real 0.00\nuser 0.00\nsys 0.00".toList
    else match m.value? "TIMEFORMAT" with
      | some format => told format
      | none => "\nreal\t0m0.000s\nuser\t0m0.000s\nsys\t0m0.000s".toList
  if !text.isEmpty then Run.complain text
where
  /-- The parts of a format. -/
  told : Octets → Octets
    | '%' :: '%' :: rest => '%' :: told rest
    | '%' :: 'l' :: c :: rest => if "RUS".toList.contains c then "0m0.000s".toList ++ told rest
      else '%' :: 'l' :: told (c :: rest)
    | '%' :: 'P' :: rest => "0.00".toList ++ told rest
    | '%' :: c :: rest =>
      if "RUS".toList.contains c then "0.000".toList ++ told rest
      else if isDigit c then '0' :: told rest
      else '%' :: told (c :: rest)
    | c :: rest => c :: told rest
    | [] => []

end Extended
end BulkSuppress.Shell
