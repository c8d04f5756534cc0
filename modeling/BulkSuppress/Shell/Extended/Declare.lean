import BulkSuppress.Shell.Extended.Assign

/-
  Declaring variables in the extended dialect: attributes, values, and variables of functions. A
  declaration that cannot be made is told, and those behind it are made all the same.
-/

namespace BulkSuppress.Shell.Extended

/-- An argument of a command that declares variables. -/
inductive Operand where
  | text (cs : Octets)
  /-- An assignment, with how it is spelled. -/
  | setting (s : Setting) (a : Assignment)

/-- The slot and the value of a text that is an assignment, and whether it appends. -/
def settingIn? (cs : Octets) : Option Setting :=
  let name := cs.takeWhile isNameChar
  let rest := cs.drop name.length
  let made (place : Option Octets) (rest : Octets) : Option Setting :=
    match rest with
    | '=' :: value => some ⟨⟨String.ofList name, place⟩, false, .text value⟩
    | '+' :: '=' :: value => some ⟨⟨String.ofList name, place⟩, true, .text value⟩
    | _ => none
  if !isName name then none
  else
    match rest with
    | '[' :: inside => (Calculation.subscript? 0 inside).bind fun r => made (some r.1) r.2
    | rest => made none rest

/-- An argument as text. -/
def Operand.toText : Operand → Octets
  | .text cs => cs
  | .setting s a =>
    match s.given with
    | .text cs => s.slot.name.toList ++ (s.slot.place.elim [] fun p => ['['] ++ p ++ [']']) ++
        (if s.appends then ['+', '='] else ['=']) ++ cs
    | .items _ => s.shown a

/-! ## Showing variables -/

/-- A value as declarations show it. -/
def shownValue (cs : Octets) : Octets :=
  if Quotes.isHidden cs then Quotes.spelled cs else Quotes.double cs

/-- A variable as a command that declares it. -/
def declaration (name : String) (v : Variable) : Octets :=
  let letters := attributeLetters v
  let value : Octets := match v.elements with
    | some e => if v.isFilled || !e.toList.isEmpty then '=' :: elementsText e else []
    | none => v.value.elim [] fun cs => '=' :: shownValue cs
  "declare ".toList ++ (if letters.isEmpty then ['-', '-'] else '-' :: letters) ++ [' '] ++
    name.toList ++ value ++ ['\n']

/-- Variables in the order of their names. -/
def inOrder (vs : List (String × Variable)) : List (String × Variable) :=
  vs.mergeSort fun a b => !(b.1 < a.1)

/-- The variables that have some attributes, as commands that declare them. -/
def declarations (m : Machine) (p : Variable → Bool) : Octets :=
  (inOrder (m.bindings.filter fun v => p v.2)).flatMap fun v => declaration v.1 v.2

/-- All variables with their values. -/
def assignments (m : Machine) : Octets :=
  (inOrder (m.bindings.filter fun v => v.2.isSet)).flatMap fun (name, v) =>
    let value := match v.elements with
      | some e => elementsText e
      | none =>
        let cs := v.value.getD []
        if cs.isEmpty then []
        else if Quotes.isHidden cs then Quotes.spelled cs
        else if Quotes.hasSigns cs then Quotes.single cs
        else cs
    name.toList ++ ['='] ++ value ++ ['\n']

/-! ## Variables of functions -/

/-- Have a variable of the function that is running get its value back when the function ends. -/
def makeLocal (name : String) : Run Bool := do
  let m ← get
  match m.saved with
  | [] => return true
  | frame :: frames =>
    if (frame.lookup name).isSome then return true
    else
      let old := m.binding? name
      if old.any (·.readOnly) then
        refuse (name.toList ++ ": readonly variable".toList)
        return false
      else
        set ({ m with saved := ((name, old) :: frame) :: frames }.withVariable name
          (some { exported := (old.map Variable.exported).getD false }))
        return true

/-! ## Declarations -/

/-- The variable with the attributes that letters turn on or off, apart from those that keep it. -/
def marked (choices : List Choice) (v : Variable) : Variable :=
  choices.foldl (fun v c =>
    let on := !c.isOff
    match c.letter with
    | 'i' => { v with calculates := on }
    | 'l' => { v with casing := if on then some .lower else none }
    | 'u' => { v with casing := if on then some .upper else none }
    | 'c' => { v with casing := if on then some .swapped else none }
    | 'n' => { v with leads := on }
    | 'x' => { v with exported := on }
    | _ => v) v

/-- The variable as an array of a kind, or why it cannot be one. -/
def asArray (isListed : Bool) (v : Variable) : Except String Variable :=
  match v.elements with
  | some e =>
    if e.isListed = isListed then .ok v
    else if e.isListed then .error "cannot convert indexed to associative array"
    else .error "cannot convert associative to indexed array"
  | none =>
    let e : Elements :=
      if isListed then .listed ((v.value.map fun cs => (0, cs)).toList)
      else .keyed ((v.value.map fun cs => (['0'], cs)).toList)
    .ok { v with value := none, elements := some e, isFilled := v.value.isSome }

/-- Make a declaration of a slot. -/
def declareSlot (choices : List Choice) (isLocal : Bool) (slot : Slot) (s : Option Setting) :
    Run Unit := do
  let isLed := has choices 'n' || choices.any fun c => c.letter = 'n'
  let own ← if isLed || isLocal then pure slot else do pure ((← get).slot slot)
  let isOwn ← if isLocal then makeLocal own.name else pure true
  if isOwn then
    let m ← get
    let v := (m.binding? own.name).getD { exported := m.has 'a' }
    let isKept := v.readOnly && (s.isSome || choices.any fun c => c.letter = 'r' && c.isOff)
    let destroys := choices.any fun c => (c.letter = 'a' || c.letter = 'A') && c.isOff
    let placed := slot.place.isSome || (s.any fun s => s.given matches .items _)
    let kind : Except String Variable :=
      if has choices 'A' then asArray false v
      else if has choices 'a' || (placed && v.elements.isNone) then asArray true v
      else .ok v
    if isKept then
      if ["export", "readonly"].any fun name => m.builtin = some name.toList then
        modify fun m => { m with builtin := none }
      refuse (own.name.toList ++ ": readonly variable".toList)
    else if destroys then
      refuse (own.name.toList ++ ": cannot destroy array variables in this way".toList)
    else
      match kind with
      | .error why => refuse (own.name.toList ++ (": " ++ why).toList)
      | .ok v =>
        let v := marked choices v
        if has choices 'n' && (s.any fun s => match s.given with
            | .text cs => cs = own.name.toList
            | .items _ => false) then
          refuse (own.name.toList ++ ": nameref variable self references not allowed".toList)
        else
          modify (·.withVariable own.name (some { v with leads := v.leads && s.isNone }))
          match s with
          | some s => Setting.make { s with slot := own }
          | none => pure ()
          modify fun m => m.withVariable own.name ((m.binding? own.name).map fun after =>
            { after with
              leads := v.leads
              readOnly := after.readOnly || has choices 'r' })

/-- Make the declaration of an argument. -/
def declareOperand (choices : List Choice) (isLocal : Bool) (o : Operand) : Run Unit := do
  match o with
  | .setting s _ => declareSlot choices isLocal s.slot (some s)
  | .text cs =>
    match settingIn? cs with
    | some s => declareSlot choices isLocal s.slot (some s)
    | none =>
      let slot := Slot.ofText cs
      if isName slot.name.toList then declareSlot choices isLocal slot none
      else refuse (inTicks cs ++ ": not a valid identifier".toList)

/-- The options in front of arguments, and the rest. -/
def operandOptions (letters : String) (operands : List Operand) :
    Except Misuse (List Choice × List Operand) :=
  let texts := operands.map Operand.toText
  (choicesIn letters true texts).map fun r =>
    (r.1, operands.drop (operands.length - r.2.length))

/-- The options of a command, unless they are wrong. -/
def withOperands (name letters : String) (operands : List Operand)
    (act : List Choice → List Operand → Run Unit) : Run Unit := do
  match operandOptions letters operands with
  | .ok (choices, rest) => act choices rest
  | .error (.unknown letter isOff) =>
    Run.warn ([if isOff then '+' else '-', letter] ++ ": invalid option".toList)
    usage name
  | .error (.noValue letter) =>
    Run.warn (['-', letter] ++ ": option requires an argument".toList)
    usage name

/-- A variable has all attributes that are asked for. -/
def fits (choices : List Choice) (v : Variable) : Bool :=
  let letters := attributeLetters v
  choices.all fun c => !"aAilunrx".toList.contains c.letter || letters.contains c.letter

/-- The variable of a name as it is shown, with the values that the state of the script gives. -/
def shownVariable? (m : Machine) (name : String) : Option Variable :=
  match m.ownElements? name, m.ownValue? name with
  | some values, _ => some { elements := some (.ofList values), isFilled := true }
  | none, some cs => some { value := some cs }
  | none, none => m.binding? name

/-- Write the declarations of the variables of some names. -/
def declarationsOf (names : List Octets) : Run Unit := do
  Run.status 0
  for cs in names do
    let name := String.ofList cs
    match shownVariable? (← get) name with
    | some v => Run.write (declaration name v)
    | none => refuse (cs ++ ": not found".toList)

/-- The names of all functions, in order. -/
def functionNames (m : Machine) : List Octets :=
  Octets.sorted (m.functions.map fun f => f.1.toList)

/-- Write about functions. -/
def functions (choices : List Choice) (names : List Octets) (shown : Machine → Octets → Octets) :
    Run Unit := do
  let m ← get
  Run.status 0
  let isBrief := has choices 'F'
  if names.isEmpty then
    for cs in functionNames m do
      Run.write (if isBrief then "declare -f ".toList ++ cs ++ ['\n'] else shown m cs)
  else
    for cs in names do
      if (m.functions.lookup (String.ofList cs)).isSome then
        Run.write (if isBrief then cs ++ ['\n'] else shown m cs)
      else if choices.any fun c => c.letter = 'p' then refuse (cs ++ ": not found".toList)
      else Run.status 1

/-- Declare variables. -/
def declare (name : String) (shown : Machine → Octets → Octets) (operands : List Operand) :
    Run Unit :=
  withOperands name "aAfFgiIlnprtuxc" operands fun choices rest => do
    let m ← get
    let isLocal := !m.saved.isEmpty && !has choices 'g'
    if has choices 'f' || has choices 'F' then functions choices (rest.map Operand.toText) shown
    else if has choices 'p' then
      if rest.isEmpty then
        Run.write (declarations m (fits choices))
        Run.status 0
      else declarationsOf (rest.map Operand.toText)
    else if rest.isEmpty then
      Run.write (if choices.isEmpty then assignments m else declarations m (fits choices))
      Run.status 0
    else
      Run.status 0
      rest.forM (declareOperand choices isLocal)

/-- Declare variables of the function that is running. -/
def declareLocal (operands : List Operand) : Run Unit := do
  match (← get).saved with
  | [] => refuse "can only be used in a function".toList
  | frame :: _ =>
    withOperands "local" "aAfFgiIlnprtuxc" operands fun choices rest => do
      Run.status 0
      if rest.isEmpty then
        let m ← get
        let own := m.bindings.filter fun v => (frame.lookup v.1).isSome
        Run.write ((inOrder own).flatMap fun v => declaration v.1 v.2)
      for o in rest do
        if o.toText ≠ ['-'] then declareOperand choices true o

/-- Have programs get variables, or keep variables as they are. -/
def declareFor (name : String) (letter : Char) (operands : List Operand) : Run Unit :=
  withOperands name (if letter = 'x' then "fnp" else "aAfp") operands fun choices rest => do
    Run.status 0
    if has choices 'f' then return
    else if rest.isEmpty then
      Run.write (declarations (← get) fun v => if letter = 'x' then v.exported else v.readOnly)
    else
      let isOff := letter = 'x' && has choices 'n'
      let choices := (choices.filter fun c => c.letter = 'a' || c.letter = 'A') ++
        [{ letter, isOff : Choice }]
      rest.forM (declareOperand choices false)

/-! ## Forgetting -/

/-- Forget what a text names. -/
def forget (cs : Octets) : Run Unit := do
  let m ← get
  let slot := m.slot (Slot.ofText cs)
  match m.binding? slot.name, slot.place with
  | some v, place =>
    if v.readOnly then
      refuse (slot.name.toList ++ ": cannot unset: readonly variable".toList)
    else
      match place with
      | none => modify (·.withVariable slot.name none)
      | some place =>
        if v.elements.isSome && (place = ['@'] || place = ['*']) then
          modify (·.withVariable slot.name none)
        else
          let e := elementsOf v
          let place ← keptPlace slot.name e place
          match v.elements with
          | some _ =>
            modify (·.withVariable slot.name (some { v with elements := some (e.erase place) }))
          | none =>
            if place = ['0'] then modify (·.withVariable slot.name none)
            else refuse (slot.name.toList ++ ": not an array variable".toList)
  | none, _ =>
    modify fun m => { m with functions := m.functions.filter fun f => f.1 ≠ String.ofList cs }

/-- Forget variables or functions. -/
def unset (args : List Octets) : Run Unit :=
  withOptions "unset" "vfn" args fun choices rest => do
    Run.status 0
    for cs in rest do
      let name := String.ofList cs
      if has choices 'f' then
        modify fun m => { m with functions := m.functions.filter fun f => f.1 ≠ name }
      else if has choices 'n' then modify (·.withVariable name none)
      else if has choices 'v' && !isName (Slot.ofText cs).name.toList then
        refuse (inTicks cs ++ ": not a valid identifier".toList)
      else forget cs

end BulkSuppress.Shell.Extended
