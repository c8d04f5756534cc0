import BulkSuppress.Shell.Expansion
import BulkSuppress.Shell.Extended.Arguments
import BulkSuppress.Shell.Spelling

/-
  Assignments in the extended dialect: to variables, to elements, and of whole arrays. What a
  variable is set to depends on its attributes; an assignment that cannot be made ends the line of
  the script.
-/

namespace BulkSuppress.Shell.Extended

/-- An item that an array is given. -/
structure Item where
  place : Option Octets := none
  appends : Bool := false
  value : Octets

/-- What a variable is given. -/
inductive Given where
  | text (cs : Octets)
  | items (items : List Item)

/-- An assignment of which the words have been expanded. -/
structure Setting where
  slot : Slot
  appends : Bool := false
  given : Given

/-- Tell that a variable keeps its value. -/
def readOnly {α : Type} (name : String) : Run α := discarded (name.toList ++ ": readonly variable".toList)

/-- The value that a variable takes when it is given a text, perhaps behind an old value. -/
def conformed (v : Variable) (old : Option Octets) (cs : Octets) : Run Octets := do
  if v.calculates then
    let n ← Calculation.value cs
    let before ← match old with
      | some old => Calculation.value old
      | none => pure 0
    return (toString (Sum.wrap (before + n))).toList
  else
    let whole := old.getD [] ++ cs
    return match v.casing with
      | some .swapped => Transform.recase .upper false [] (Transform.recase .lower true [] whole)
      | some how => Transform.recase how true [] whole
      | none => whole

/-- The elements that a variable has before it is given others. -/
def elementsOf (v : Variable) : Elements :=
  v.elements.getD (.listed ((v.value.map fun cs => (0, cs)).toList))

/-- The number of the place that a text names in a list, which counts from the end if negative. -/
def numberOfPlace (name : String) (e : Elements) (place : Octets) : Run Nat := do
  let n ← Calculation.value place
  let index := if n < 0 then n + (e.limit : Int) else n
  if index < 0 then
    discarded (name.toList ++ ['['] ++ place ++ "]: bad array subscript".toList)
  return index.toNat

/-- The place of an element that a text names, as it is kept. -/
def keptPlace (name : String) (e : Elements) (place : Octets) : Run Octets := do
  if e.isListed then return (toString (← numberOfPlace name e place)).toList
  else
    if place.isEmpty then discarded (name.toList ++ "[]: bad array subscript".toList)
    return place

/-- The elements with those that items give. -/
def withItems (name : String) (v : Variable) : Nat → Elements → List Item → Run Elements
  | _, e, [] => return e
  | next, e, item :: rest => do
    match item.place, e, rest with
    | none, .keyed _, value :: rest =>
      let cs ← conformed v none value.value
      withItems name v 0 (e.insert item.value cs) rest
    | none, .keyed _, [] => return e.insert item.value []
    | place, e, rest =>
      let place ← match place with
        | some place => keptPlace name e place
        | none => pure (toString next).toList
      let old := if item.appends then e.get? place else none
      let cs ← conformed v (if item.appends then some (old.getD []) else none) item.value
      withItems name v ((decimal? place).getD 0 + 1) (e.insert place cs) rest

/-- Make an assignment. -/
def Setting.make (s : Setting) : Run Unit := do
  let m ← get
  let slot := m.slot s.slot
  let v := (m.binding? slot.name).getD { exported := m.has 'a' }
  if v.readOnly then readOnly slot.name
  match s.given, slot.place with
  | .text cs, none =>
    let cs ← conformed v (if s.appends then some ((m.held? slot.name).getD []) else none) cs
    Run.assign slot.name cs
  | .text cs, some place =>
    let e := elementsOf v
    let place ← keptPlace slot.name e place
    let old := if s.appends then some ((e.get? place).getD []) else none
    let cs ← conformed v old cs
    let v := ((← get).binding? slot.name).getD v
    modify (·.withVariable slot.name (some { v with
      value := none, elements := some ((elementsOf v).insert place cs), isFilled := true }))
  | .items _, some place =>
    discarded (slot.name.toList ++ ['['] ++ place ++
      "]: cannot assign list to array member".toList)
  | .items items, none =>
    let former := elementsOf v
    let empty : Elements := match former with
      | .listed _ => .listed []
      | .keyed _ => .keyed []
    let start := if s.appends then former else empty
    let e ← withItems slot.name v start.limit start items
    let v := ((← get).binding? slot.name).getD v
    modify (·.withVariable slot.name (some { v with
      value := none, elements := some e, isFilled := true }))

section

variable (run : Command → Run Unit)

/-- The items that an array is given by words. -/
def itemsOf (items : List Assignment) : Run (List Item) := do
  let parts ← items.mapM fun item => do
    match item with
    | .mk _ (some index) appends value =>
      let place := octetsOf (← layOut run { parts := false } index)
      let cs ← assignedText run value
      return [{ place := some place, appends, value := cs : Item }]
    | .mk _ none _ value =>
      return (← fieldsOfWord run value).map fun cs => { value := cs : Item }
  return parts.flatten

/-- An assignment with its words expanded. -/
def settingOf : Assignment → Run Setting
  | .mk name index appends value => do
    let place ← match index with
      | some w => do pure (some (octetsOf (← layOut run { parts := false } w)))
      | none => pure none
    let given ← match value with
      | [.items items] => do pure (Given.items (← itemsOf run items))
      | value => do pure (Given.text (← assignedText run value))
    return { slot := ⟨name, place⟩, appends, given }

end

/-- An assignment as it is shown before it is made. -/
def Setting.shown (s : Setting) (a : Assignment) : Octets :=
  let .mk _ _ _ value := a
  let name := s.slot.name.toList ++ (s.slot.place.elim [] fun place => ['['] ++ place ++ [']'])
  let sign := if s.appends then ['+', '='] else ['=']
  match s.given with
  | .text cs => name ++ sign ++ (if cs.isEmpty then [] else Quotes.traced cs)
  | .items _ => name ++ sign ++ (match value with
    | [.items items] => ['('] ++ Octets.join [' '] (items.map spellItem) ++ [')']
    | _ => [])
where
  /-- An item of an array as a script spells it. -/
  spellItem : Assignment → Octets
    | .mk _ (some w) appends value =>
      ['['] ++ spellWord w ++ [']'] ++ (if appends then ['+', '='] else ['=']) ++ spellWord value
    | .mk _ none _ value => spellWord value

end BulkSuppress.Shell.Extended
