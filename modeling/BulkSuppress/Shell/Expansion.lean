import BulkSuppress.Shell.Pattern
import BulkSuppress.Shell.Alternatives
import BulkSuppress.Shell.Calculation
import BulkSuppress.Shell.Quotes
import BulkSuppress.Shell.Script
import BulkSuppress.Shell.Transform

/-
  From words to fields. A word is first laid out as pieces, in which parameters, scripts and sums
  have their values; pieces are then parted into fields, and fields with wildcards become the
  paths that they find. How scripts inside words are run is a parameter.
-/

namespace BulkSuppress.Shell

/-- A piece of a word that is laid out. -/
inductive Piece where
  /-- An octet; one that came out of an expansion can part fields if it is not quoted. -/
  | octet (c : Char) (quoted splits : Bool)
  /-- Something quoted stands here, so that there is a field even if it is empty. -/
  | seam
  /-- An expansion starts. -/
  | region
  /-- Arguments meet here, as if parted by a blank. -/
  | gap
  /-- Quoted arguments meet here. -/
  | cut
  /-- The last of quoted arguments starts; an empty one is a field unless an expansion follows. -/
  | last
deriving DecidableEq, Repr

/-! ## Fields -/

/-- Fields under construction. -/
structure Fields where
  /-- The complete ones, last first. -/
  complete : List (List Marked) := []
  /-- The one that is under construction, reversed. -/
  current : Option (List Marked) := none
  /-- A blank of the same expansion stands in front, so that one more sign may part with it. -/
  behindBlank : Bool := false
  /-- A separator stands in front, in the same expansion. -/
  behindSeparator : Bool := false
  /-- The current one is an empty last argument; an expansion may have started behind it. -/
  behindLast : Option Bool := none

namespace Fields

/-- The fields with an octet more in the current one. -/
def add (f : Fields) (m : Marked) : Fields :=
  { complete := f.complete, current := some (m :: f.current.getD []) }

/-- The fields with a current one. -/
def touch (f : Fields) : Fields :=
  { f with current := some (f.current.getD []), behindLast := none }

/-- The fields behind the start of the last one of quoted arguments. -/
def last (f : Fields) : Fields :=
  if f.current.isNone then { f with current := some [], behindLast := some false } else f

/-- The fields behind the start of an expansion. -/
def region (f : Fields) : Fields :=
  { f with
      behindBlank := false
      behindSeparator := false
      behindLast := f.behindLast.map fun _ => true }

/-- The fields with the current one complete, which may be empty. -/
def close (f : Fields) : Fields :=
  { complete := (f.current.getD []).reverse :: f.complete }

/-- The fields behind a blank that parts fields. -/
def blank (f : Fields) : Fields :=
  if f.current.isNone then f
  else { f.close with behindBlank := true, behindSeparator := true }

/-- The fields behind a sign that parts fields. -/
def sign (f : Fields) : Fields :=
  if f.behindSeparator && f.behindBlank then { f with behindBlank := false }
  else { f.close with behindSeparator := true }

/-- The fields behind one more piece. -/
def withPiece (separators : Octets) (f : Fields) : Piece → Fields
  | .octet c quoted splits =>
    if splits && !quoted && separators.contains c then
      if " \t\n".toList.contains c then f.blank else f.sign
    else f.add (c, quoted)
  | .seam => f.touch
  | .region => f.region
  | .gap => f.blank
  | .cut => f.close
  | .last => f.last

/-- The fields in order. -/
def toList (f : Fields) : List (List Marked) :=
  let current := if f.behindLast = some true then none else f.current
  ((current.map List.reverse).toList ++ f.complete).reverse

end Fields

/-- The fields that pieces make. -/
def fieldsOf (separators : Octets) (pieces : List Piece) : List (List Marked) :=
  (pieces.foldl (Fields.withPiece separators) {}).toList

/-- The octets of pieces that stay together. -/
def octetsOf (pieces : List Piece) : Octets :=
  pieces.filterMap fun
    | .octet c _ _ => some c
    | _ => none

/-- The pattern that octets spell; an unquoted backslash quotes what is behind it. -/
def unescaped : List Marked → List Marked
  | ('\\', false) :: m :: rest => (m.1, true) :: unescaped rest
  | m :: rest => m :: unescaped rest
  | [] => []

/-- The octets of pieces, with marks for those that are quoted. -/
def markedOf (pieces : List Piece) : List Marked :=
  pieces.filterMap fun
    | .octet c quoted _ => some (c, quoted)
    | _ => none

/-- Which names the patterns of a script find. -/
def Machine.globbing (m : Machine) : Globbing where
  groups := m.isOn "extglob"
  hidden := m.isOn "dotglob"
  skipsDots := m.dialect = .extended
  deep := m.isOn "globstar"
  foldsCase := m.isOn "nocaseglob"

/-- How the patterns of a script match texts. -/
def Machine.matching (m : Machine) : Globbing where
  groups := m.isOn "extglob"
  foldsCase := m.isOn "nocasematch"

/-- The pattern that pieces spell, which may take letters for others. -/
def soughtOf (g : Globbing) (pieces : List Piece) : Transform.Sought :=
  ⟨g.parts (unescaped (markedOf pieces)), g.foldsCase⟩

/-- The pattern that pieces spell. -/
def patternOf (g : Globbing) (pieces : List Piece) : List PatternPart :=
  { g with foldsCase := false }.parts (unescaped (markedOf pieces))

/-! ## Laying out -/

/-- How words are laid out. -/
structure Manner where
  /-- Fields are parted. -/
  parts : Bool
  /-- What stands in the word itself can part fields too. -/
  splits : Bool := false
  /-- A tilde at the front stands for a home directory. -/
  home : Bool := false

/-- The pieces of a value. -/
def valuePieces (quoted : Bool) (cs : Octets) : List Piece :=
  (if quoted then .seam else .region) :: cs.map fun c => .octet c quoted true

/-- Octets without the line ends behind them. -/
def withoutLineEnds (cs : Octets) : Octets :=
  (cs.reverse.dropWhile (· = '\n')).reverse

/-- What stands between arguments that are laid out as one text. -/
def Machine.glue (m : Machine) : Octets :=
  match m.value? "IFS" with
  | some cs => cs.take 1
  | none => [' ']

/-- The pieces of several values, each by itself or as one text. -/
def itemPieces (m : Machine) (manner : Manner) (each quoted : Bool) (values : List Octets) :
    List Piece :=
  if manner.parts && each && quoted then
    let octets (cs : Octets) : List Piece := cs.map fun c => .octet c true false
    (values.dropLast.flatMap fun a => .seam :: octets a ++ [.cut]) ++
      values.getLast?.elim [] fun a => .last :: octets a
  else if manner.parts && !quoted then
    .region :: [Piece.gap].intercalate (values.map fun a => a.map fun c => .octet c false true)
  else
    let glue := if each && m.dialect = .extended then [' '] else m.glue
    valuePieces quoted (Octets.join glue values)

/-- The sign stands for all arguments. -/
def namesArguments (name : String) : Bool := name = "@" || name = "*"

/-- End what is running, since a parameter has no value that it should have. -/
def missing {α : Type} (name : Octets) (why : Octets) : Run α := do
  let text := name ++ ": ".toList ++ why
  match (← get).dialect with
  | .common => Run.fail text
  | .extended =>
    Run.warn text
    throw (.exit 1)

/-- End what is running, since a parameter that is used has no value. -/
def unset {α : Type} (name : Octets) : Run α := do
  match (← get).dialect with
  | .common => missing name "parameter not set".toList
  | .extended =>
    missing (if name.all isDigit then '$' :: name else name) "unbound variable".toList

/-- End the line that is running, since something in it makes no sense. -/
def discarded {α : Type} (why : Octets) : Run α := do
  Run.warn why
  Run.status 1
  throw .discarded

/-! ## What parameters hold -/

/-- What a parameter holds. -/
inductive Held where
  /-- A value, perhaps. -/
  | text (slot : Slot) (value : Option Octets)
  /-- Several values with the places where they are. -/
  | items (slot : Slot) (each : Bool) (items : List (Octets × Octets))

/-- How messages name what holds a value. -/
def Held.name : Held → Octets
  | .text s _ =>
    s.name.toList ++ (s.place.elim [] fun place => ['['] ++ place ++ [']'])
  | .items s each _ => s.name.toList ++ (if each then "[@]" else "[*]").toList

/-- Something is held; empty values count if that is said. -/
def Held.isThere (emptyCounts : Bool) : Held → Bool
  | .text _ (some cs) => emptyCounts || !cs.isEmpty
  | .text _ none => false
  | .items _ _ all =>
    if emptyCounts then !all.isEmpty else !(Octets.join [' '] (all.map (·.2))).isEmpty

/-- What a parameter holds, by name. -/
def heldNamed (m : Machine) (name : String) : Held :=
  if m.dialect = .extended && namesArguments name then
    let places := (List.range m.arguments.length).map fun n => (toString (n + 1)).toList
    .items ⟨name, none⟩ (name = "@") (places.zip m.arguments)
  else .text ⟨name, none⟩ (m.held? name)

/-- What all elements of an array hold. -/
def heldByAll (m : Machine) (name : String) (each : Bool) : Held :=
  let s := m.slot ⟨name, none⟩
  .items ⟨s.name, some []⟩ each ((m.elements? s.name).elim [] Elements.toList)

/-- What an element of an array holds. -/
def heldAt (s : Slot) : Run Held := do
  let m ← get
  let s := m.slot s
  match s.place with
  | none => return heldNamed m s.name
  | some place =>
    if m.isListed s.name then
      let n ← Calculation.value place
      let limit : Int := ((m.elements? s.name).map (·.limit)).getD 0
      let index := if n < 0 then n + limit else n
      if index < 0 then
        Run.warn (s.name.toList ++ ": bad array subscript".toList)
        return .text s none
      else
        let at' : Slot := ⟨s.name, some (toString index).toList⟩
        return .text ⟨s.name, some place⟩ ((← get).slotValue? at')
    else
      return .text s (m.slotValue? s)

/-- What is held by what a text names. -/
def heldByText (cs : Octets) : Run Held := do
  let m ← get
  let s := Slot.ofText cs
  match s.place with
  | some ['@'] => return heldByAll m s.name true
  | some ['*'] => return heldByAll m s.name false
  | some _ => heldAt s
  | none =>
    let isGood := isName cs || cs.all isDigit || (cs.length = 1 && cs.all fun c => "@*#?-$!".toList.contains c)
    if cs.isEmpty || !isGood then discarded (cs ++ ": invalid variable name".toList)
    return heldNamed m s.name

/-- The value of a parameter; one without a value ends the script if that is asked for. -/
def demanded (held : Held) : Run Held := do
  match held with
  | .text s none =>
    let m ← get
    if m.has 'u' && !namesArguments s.name && s.name ≠ "!" then unset held.name
    else return held
  | h => return h

/-- What is held as pieces. -/
def heldPieces (manner : Manner) (quoted : Bool) (held : Held) : Run (List Piece) := do
  match ← demanded held with
  | .text _ (some cs) => return valuePieces quoted cs
  | .text _ none => return if quoted then [.seam] else []
  | .items _ each items => return itemPieces (← get) manner each quoted (items.map (·.2))

/-- The value of a parameter as pieces. -/
def parameterPieces (manner : Manner) (name : String) (quoted : Bool) : Run (List Piece) := do
  let m ← get
  if namesArguments name then return itemPieces m manner (name = "@") quoted m.arguments
  else heldPieces manner quoted (heldNamed m name)

/-- What a parameter holds as pieces, where the arguments of a script count too. -/
def valuesOf (manner : Manner) (quoted : Bool) (held : Held) : Run (List Piece) := do
  match held with
  | .text s value =>
    if namesArguments s.name && s.place.isNone then parameterPieces manner s.name quoted
    else heldPieces manner quoted (.text s value)
  | held => heldPieces manner quoted held

/-- What is held as pieces, with a change of each value. -/
def changedPieces (manner : Manner) (quoted : Bool) (held : Held) (f : Octets → Octets) :
    Run (List Piece) := do
  match ← demanded held with
  | .text s value => heldPieces manner quoted (.text s (value.map f))
  | .items s each items => heldPieces manner quoted (.items s each (items.map fun i => (i.1, f i.2)))

/-- The integer that a text spells: with a sign, and in base ten, eight or sixteen. -/
def integer? (cs : Octets) : Option Int :=
  let blank (c : Char) : Bool := c = ' ' || ('\t' ≤ c && c ≤ '\r')
  let trimmed := (((cs.dropWhile blank).reverse).dropWhile blank).reverse
  let (negative, digits) := match trimmed with
    | '-' :: rest => (true, rest)
    | '+' :: rest => (false, rest)
    | rest => (false, rest)
  let (n, length) := Sum.numberAt digits
  if trimmed.isEmpty then some 0
  else if length = 0 || length < digits.length then none
  else some (if negative then -n else n)

/-- An integer as octets. -/
def spelled (n : Int) : Octets := (toString n).toList

/-- The integer that a variable spells in a calculation. -/
def integerOf (name : String) : Run Int := do
  let cs := ((← get).parameter? name).getD []
  match integer? cs with
  | some n => return n
  | none => Run.fail ("Illegal number: ".toList ++ cs)

/-- End what is running, since a calculation makes no sense. -/
def noSum {α : Type} (why : String) (cs : Octets) : Run α :=
  Run.fail (("arithmetic expression: " ++ why ++ ": \"").toList ++ cs ++ ['"'])

/-- The value of a calculation. -/
def calculated (cs : Octets) : Run Int := do
  if (← get).dialect = .extended then Calculation.value cs
  else if cs.all fun c => c = ' ' || c = '\t' || c = '\n' then return 0
  else
    match Sum.parse cs with
    | .error expected => noSum expected cs
    | .ok a =>
      Sum.value integerOf (fun name n => Run.assign name (spelled n))
        (noSum "division by zero" cs) a

/-- The text that a tilde at the front stands for, and what is behind it. -/
def home? (m : Machine) (cs : Octets) : Option (Octets × Octets) :=
  match cs with
  | '~' :: rest =>
    let user := rest.takeWhile (· ≠ '/')
    let extended := m.dialect = .extended
    let directory := if user.isEmpty then m.value? "HOME"
      else if user = "root".toList then some "/root".toList
      else if extended && user = ['+'] then m.value? "PWD"
      else if extended && user = ['-'] then m.value? "OLDPWD"
      else none
    directory.map fun dir => (dir, rest.drop user.length)
  | _ => none

/-- The pieces of text that stands in a word. -/
def textPieces (splits : Bool) (cs : Octets) : List Piece := cs.map fun c => .octet c false splits

/-- The pieces of text at the front of a word, where a tilde stands for a home directory. -/
def frontPieces (m : Machine) (splits isAll : Bool) (cs : Octets) : List Piece :=
  match home? m cs with
  | some (dir, after) =>
    if after.isEmpty && !isAll then textPieces splits cs
    else .seam :: (dir.map fun c => .octet c true false) ++ textPieces splits after
  | none => textPieces splits cs

/-- The parts of a text between colons, with home directories in place of tildes at their fronts. -/
def withHomes (m : Machine) (isFront isAll : Bool) : List Octets → Word
  | [] => []
  | cs :: rest =>
    let colon : Word := if rest.isEmpty then [] else [.text [':'] false]
    let own : Word := match if isFront then home? m cs else none with
      | some (dir, after) =>
        if after.isEmpty && rest.isEmpty && !isAll then [.text cs false]
        else [.text dir true, .text after false]
      | none => [.text cs false]
    own ++ colon ++ withHomes m true isAll rest

/-- The word of an assignment with home directories in place of tildes. -/
def withHomesOf (m : Machine) (isFront : Bool) : Word → Word
  | [] => []
  | .text cs false :: rest =>
    withHomes m isFront rest.isEmpty (Text.pieces ':' cs) ++ withHomesOf m false rest
  | p :: rest => p :: withHomesOf m false rest

section

variable (run : Command → Run Unit)

/-- The file that a script only stands for the text of. -/
def onlyRead? : Command → Option Command
  | .simple line [] [] [.mk 0 .read target] =>
    some (.simple line [] [[.text "/bin/cat".toList true]] [.mk 0 .read target])
  | _ => none

/-- The line of the first simple command. -/
def Command.firstLine? : Command → Option Nat
  | .simple line .. | .redirected line .. | .subshell line .. | .each line .. | .choose line ..
  | .calculation line _ | .counted line .. | .condition line _ | .menu line .. => some line
  | .sequence c _ | .both c _ | .either c _ | .background c | .opposite c | .branch c _ _
  | .loop _ c _ | .timed _ c => c.firstLine?
  | .pipeline (c :: _) => c.firstLine?
  | _ => none

/-- The machine of a script inside a word; in the extended dialect, failures do not end it. -/
def Machine.forInner (m : Machine) (script : Command) : Machine :=
  match m.dialect with
  | .common => { m with tested := false }
  | .extended =>
    let m := if m.isOn "inherit_errexit" then m else m.withChoice false 'e'
    { m with
      tested := false
      nesting := m.nesting + 1
      shift := (m.line : Int) - (script.firstLine?.getD m.line : Nat) }

/-- What a script writes to its output. It runs in a copy of the shell. -/
def outputOf (script : Command) : Run Octets := do
  let before ← get
  let script := match before.dialect with
    | .common => script
    | .extended => (onlyRead? script).getD script
  let written ← collectedOutput run do
    modify (·.forInner script)
    run script
  modify fun m => { m with
    innerStatus := m.status
    status := before.status
    collected := m.collected.take before.collected.length }
  return withoutLineEnds (written.octets.filter (· ≠ '\x00'))

/-- The path at which what a script writes can be read. -/
def pipeFrom (script : Command) : Run Octets := do
  let before ← get
  let written ← collectedOutput run (run script)
  let m ← get
  let taken := m.descriptors.map (·.1)
  let number := ((List.range 64).reverse.find? fun n => !taken.contains n).getD 63
  let place : Location := ["dev", "fd", toString number]
  set ({ m with
    disk := m.disk.place place (.file (Octets.toBytes written.octets) false)
    status := before.status
    innerStatus := before.innerStatus
    clock := before.clock
    collected := m.collected.take before.collected.length }.opening number
      (.supply (supplied written m.clock)))
  return "/dev/fd/".toList ++ (toString number).toList

/-- The value of a calculation, for messages a part of something named. -/
def calculatedFor (name : Octets) (cs : Octets) : Run Int := do
  let before := (← get).builtin
  modify fun m => { m with builtin := some name }
  let n ← calculated cs
  modify fun m => { m with builtin := before }
  return n

/-- A part of what is held. -/
def slicePieces (manner : Manner) (quoted : Bool) (held : Held) (start : Int)
    (length : Option (Octets × Int)) : Run (List Piece) := do
  let m ← get
  let refuse {α : Type} : Run α :=
    discarded ((length.map (·.1)).getD [] ++ ": substring expression < 0".toList)
  match held with
  | .text s (some cs) =>
    match Transform.slice? start (length.map (·.2)) cs with
    | some part => heldPieces manner quoted (.text s (some part))
    | none => refuse
  | .text _ none => heldPieces manner quoted held
  | .items s each items =>
    let isArguments := s.place.isNone
    let counted : List (Int × Octets) :=
      if isArguments then
        let all := if start = 0 then m.name :: m.arguments else m.arguments
        let first := if start = 0 then 0 else 1
        (List.range all.length).map (fun n => ((n + first : Nat) : Int)) |>.zip all
      else if m.isListed s.name then
        items.map fun i => (((decimal? i.1).getD 0 : Nat), i.2)
      else (List.range items.length).map (fun n => ((n + 1 : Nat) : Int)) |>.zip (items.map (·.2))
    let limit : Int :=
      if isArguments then m.arguments.length + 1
      else if m.isListed s.name then (counted.getLast?.map (·.1 + 1)).getD 0
      else items.length
    match Transform.sliceItems? start (length.map (·.2)) limit counted with
    | some part => heldPieces manner quoted (.items s each (part.map fun cs => ([], cs)))
    | none => refuse

/-- The letters of the attributes of a variable. -/
def attributeLetters (v : Variable) : Octets :=
  let array := match v.elements with
    | some e => if e.isListed then ['a'] else ['A']
    | none => []
  let casing := match v.casing with
    | some .upper => ['u']
    | some .lower => ['l']
    | some .swapped => ['c']
    | none => []
  array ++ (if v.calculates then ['i'] else []) ++ (if v.leads then ['n'] else []) ++
    (if v.readOnly then ['r'] else []) ++ (if v.exported then ['x'] else []) ++ casing

/-- The elements of an array as scripts write them. -/
def elementsText (e : Elements) : Octets :=
  let items := e.toList.map fun (place, value) =>
    let shown := if e.isListed || !Quotes.hasSigns place then place else Quotes.double place
    ['['] ++ shown ++ "]=".toList ++
      (if Quotes.isHidden value then Quotes.spelled value else Quotes.double value)
  let inside := Octets.join [' '] items
  ['('] ++ inside ++ (if e.isListed || items.isEmpty then [] else [' ']) ++ [')']

/-- A value in the form that a letter names. -/
def formed? (letter : Char) (m : Machine) (held : Held) : Option (Octets → Octets) :=
  let v := match held with
    | .text s _ | .items s _ _ => (m.binding? s.name).getD {}
  match letter with
  | 'Q' | 'K' | 'k' => some Quotes.reusable
  | 'U' => some (Transform.recase .upper true [])
  | 'u' => some (Transform.recase .upper false [])
  | 'L' => some (Transform.recase .lower true [])
  | 'E' => some fun cs => Transform.unspelled (cs.length + 1) cs
  | 'P' => some id
  | 'a' => some fun _ => attributeLetters v
  | 'A' => some fun cs =>
    let letters := attributeLetters v
    let front := if letters.isEmpty then [] else "declare -".toList ++ letters ++ [' ']
    front ++ held.name ++ ['='] ++ Quotes.single cs
  | _ => none

/-- What is held, in the form that a letter names, as pieces. -/
def formedPieces (manner : Manner) (quoted : Bool) (held : Held) (letter : Char) :
    Run (List Piece) := do
  let m ← get
  match letter, held with
  | 'a', .text s none =>
    match m.binding? s.name with
    | some v => heldPieces manner quoted (.text s (some (attributeLetters v)))
    | none => heldPieces manner quoted held
  | 'A', .items s each items =>
    match (m.binding? s.name).bind fun v => v.elements.map fun e => (v, e) with
    | some (v, e) =>
      let text := "declare -".toList ++ attributeLetters v ++ [' '] ++ s.name.toList ++ ['='] ++
        elementsText e
      heldPieces manner quoted (.text s (some text))
    | none =>
      heldPieces manner quoted (.items s each
        (items.map fun i => (i.1, s.name.toList ++ ['='] ++ Quotes.reusable i.2)))
  | 'K', .items s each items =>
    let text := Octets.join [' '] (items.map fun i => i.1 ++ [' '] ++ Quotes.double i.2)
    heldPieces manner quoted (.items s each (if items.isEmpty then [] else [([], text)]))
  | 'k', .items s each items =>
    heldPieces manner quoted (.items s each (items.flatMap fun i => [([], i.1), ([], i.2)]))
  | letter, held =>
    match formed? letter m held, held with
    | some f, _ => changedPieces manner quoted held f
    | none, .text _ none => heldPieces manner quoted held
    | none, _ =>
      Run.warn ("$\x7b".toList ++ held.name ++ ['@'] ++ [letter].filter (· ≠ '\x00') ++ "\x7d: bad substitution".toList)
      throw (.exit 1)

mutual

/-- The pieces of a word. -/
def layOut (manner : Manner) : List Part → Run (List Piece)
  | [] => return []
  | p :: rest => do
    let inner := { manner with home := false }
    match manner.home, p with
    | true, .text cs false =>
      let first := frontPieces (← get) manner.splits rest.isEmpty cs
      return first ++ (← layOut inner rest)
    | _, p =>
      let first ← layOutPart inner p
      return first ++ (← layOut inner rest)

/-- The pieces of a part. -/
def layOutPart (manner : Manner) : Part → Run (List Piece)
  | .text cs quoted =>
    if quoted then return .seam :: cs.map fun c => .octet c true false
    else return textPieces manner.splits cs
  | .parameter h use quoted => do
    match h, use with
    | .named name, .value => parameterPieces manner name quoted
    | .named name, .names each =>
      let m ← get
      let found := ((m.bindings.filter fun v => v.2.isSet).map (·.1)).filter fun x =>
        name.isPrefixOf x
      let found := (Octets.sorted (found.map String.toList)).map fun x => (([] : Octets), x)
      heldPieces manner quoted (.items ⟨name, none⟩ each found)
    | h, use => layOutUse manner quoted (← heldBy h) use
  | .output script quoted => do return valuePieces quoted (← outputOf run script)
  | .sum body quoted => do
    let text ← layOut { parts := false } body
    return valuePieces quoted (spelled (← calculated (octetsOf text)))
  | .pipe isRead script => do
    if isRead then return textPieces false (← pipeFrom run script)
    else return textPieces false "/dev/null".toList
  | .assigned (.mk name _ appends value) => do
    let text ← layOut { parts := false } value
    return textPieces false (name.toList ++ (if appends then ['+', '='] else ['=']) ++
      octetsOf text)
  | .items _ => return []

/-- What something holds. -/
def heldBy : Holder → Run Held
  | .named name => do return heldNamed (← get) name
  | .element name index => do
    let text ← layOut { parts := false } index
    heldAt ⟨name, some (octetsOf text)⟩
  | .elements name each => do return heldByAll (← get) name each
  | .behind h => do
    match ← heldBy h with
    | .text s none =>
      match (← get).binding? s.name with
      | some _ => return .text s none
      | none => discarded (s.name.toList ++ ": invalid indirect expansion".toList)
    | .text s (some cs) =>
      match (← get).binding? s.name with
      | some v => if v.leads then return .text s v.value else heldByText cs
      | none => heldByText cs
    | .items _ _ items => heldByText (Octets.join [' '] (items.map (·.2)))

/-- The pieces of what is taken from a parameter. -/
def layOutUse (manner : Manner) (quoted : Bool) (held : Held) : Use → Run (List Piece)
  | .value => heldPieces manner quoted held
  | .length => do
    match ← demanded held with
    | .text _ value => return valuePieces quoted (toString (value.getD []).length).toList
    | .items _ _ items => return valuePieces quoted (toString items.length).toList
  | .withFallback emptyCounts how word => do
    let isThere := held.isThere emptyCounts
    let inside := { manner with splits := !quoted, home := !quoted }
    match how with
    | .replace =>
      if isThere then layOut inside word
      else return valuePieces quoted []
    | .use =>
      if isThere then valuesOf manner quoted held
      else layOut inside word
    | .assign =>
      if isThere then valuesOf manner quoted held
      else
        let cs := octetsOf (← layOut { parts := false, home := !quoted } word)
        match held with
        | .text s _ =>
          let extended := (← get).dialect = .extended
          if !isName s.name.toList then
            if extended then discarded ('$' :: s.name.toList ++ ": cannot assign in this way".toList)
            else Run.fail (s.name.toList ++ ": bad variable name".toList)
          if extended then Run.store (← Calculation.placed s) cs else Run.assign s.name cs
          return valuePieces quoted cs
        | .items .. => discarded (held.name ++ ": bad substitution".toList)
    | .complain =>
      if isThere then valuesOf manner quoted held
      else
        let why := octetsOf (← layOut { parts := false, home := !quoted } word)
        if !word.isEmpty then missing held.name why
        else
          let absent := if (← get).dialect = .common then "parameter not set or null"
            else "parameter null or not set"
          missing held.name (if emptyCounts then "parameter not set" else absent).toList
  | .trimmed suffix longest pattern => do
    let held ← demanded held
    match held with
    | .text _ none => return if quoted then [.seam] else []
    | held =>
      let ps := patternOf (← get).globbing (← layOut { parts := false } pattern)
      changedPieces manner quoted held fun cs =>
        if suffix then withoutSuffix longest ps cs else withoutPrefix longest ps cs
  | .sliced start length => do
    let held ← demanded held
    let first ← calculatedFor held.name (octetsOf (← layOut { parts := false } start))
    match length with
    | none => slicePieces manner quoted held first none
    | some w =>
      let text := octetsOf (← layOut { parts := false } w)
      let n ← calculatedFor held.name text
      slicePieces manner quoted held first (some (text, n))
  | .replaced site pattern word => do
    let held ← demanded held
    let p := soughtOf (← get).matching (← layOut { parts := false } pattern)
    let new := markedOf (← layOut { parts := false } word)
    changedPieces manner quoted held (Transform.replace site p new)
  | .cased how isAll pattern => do
    let held ← demanded held
    let ps := patternOf (← get).globbing (← layOut { parts := false } pattern)
    changedPieces manner quoted held (Transform.recase how isAll ps)
  | .formed letter => formedPieces manner quoted held letter
  | .places =>
    match held with
    | .items s each items =>
      heldPieces manner quoted (.items s each (items.map fun i => (i.1, i.1)))
    | held => heldPieces manner quoted held
  | .names _ => heldPieces manner quoted held
  | .unknown spelled => do
    match (← get).dialect with
    | .common => Run.fail "Bad substitution".toList
    | .extended =>
      Run.warn (spelled ++ ": bad substitution".toList)
      Run.status 1
      if spelled.contains '@' then throw (.exit 1) else throw .discarded

end

/-- The word without the empty quoted text in front of nothing but quoted arguments. -/
def withoutEmptyQuotes : Word → Word
  | .text [] true :: .parameter (.named "@") .value true :: rest =>
    match rest with
    | .parameter _ _ true :: _ | .output _ true :: _ | .sum _ true :: _ =>
      .text [] true :: .parameter (.named "@") .value true :: rest
    | rest => .parameter (.named "@") .value true :: rest
  | .text [] true :: .parameter (.elements name true) use true :: rest =>
    .parameter (.elements name true) use true :: rest
  | w => w

/-- The fields of a word, with paths in place of wildcards. -/
def fieldsOfPlainWord (w : Word) : Run (List Octets) := do
  let pieces ← layOut run { parts := true, home := true } (withoutEmptyQuotes w)
  let m ← get
  let g := m.globbing
  let found (field : List Marked) : Run (List Octets) := do
    let pattern := unescaped field
    let isWild := !m.has 'f' && g.isWild pattern
    let files := if isWild then paths g m.disk pattern else []
    if !files.isEmpty then return files
    else if isWild && m.isOn "failglob" then
      discarded ("no match: ".toList ++ field.map (·.1))
    else if isWild && m.isOn "nullglob" then return []
    else return [field.map (·.1)]
  return (← (fieldsOf m.separators pieces).mapM found).flatten

/-- The fields of a word, and of the words that it stands for. -/
def fieldsOfWord (w : Word) : Run (List Octets) := do
  let m ← get
  if m.dialect = .extended && !m.has 'B' then
    return (← (Alternatives.ofWord w).mapM (fieldsOfPlainWord run)).flatten
  else fieldsOfPlainWord run w

/-- The fields of words. -/
def fieldsOfWords (ws : List Word) : Run (List Octets) := do
  return (← ws.mapM (fieldsOfWord run)).flatten

/-- The text of a word that stays together. -/
def textOf (w : Word) : Run Octets := do
  return octetsOf (← layOut run { parts := false, home := true } w)

/-- The text that an assignment gives. -/
def assignedText (w : Word) : Run Octets := do
  return octetsOf (← layOut run { parts := false } (withHomesOf (← get) true w))

/-- The pattern that a word spells. -/
def patternOfWord (w : Word) : Run Transform.Sought := do
  let pieces ← layOut run { parts := false, home := true } w
  return soughtOf (← get).matching pieces

end

end BulkSuppress.Shell
