import BulkSuppress.Shell.Machine

/-
  Options and variables in the extended dialect. Some options have letters, and some of these are on
  unless they are turned off; switches have nothing but their names. An option is shown with its
  state, or as the command that brings it into that state. Variables are arrays, names that stand
  for others, and names whose values come from the state of the script.
-/

namespace BulkSuppress.Shell.Switches

/-- The options that are set by name, with their letters. -/
def options : List (String × Option Char) :=
  [("allexport", 'a'), ("braceexpand", 'B'), ("emacs", none), ("errexit", 'e'),
    ("errtrace", 'E'), ("functrace", 'T'), ("hashall", 'h'), ("histexpand", 'H'),
    ("history", none), ("ignoreeof", none), ("interactive-comments", none), ("keyword", 'k'),
    ("monitor", 'm'), ("noclobber", 'C'), ("noexec", 'n'), ("noglob", 'f'), ("nolog", none),
    ("notify", 'b'), ("nounset", 'u'), ("onecmd", 't'), ("physical", 'P'), ("pipefail", none),
    ("posix", none), ("privileged", 'p'), ("verbose", 'v'), ("vi", none), ("xtrace", 'x')]

/-- The switches. -/
def names : List String :=
  ["autocd", "assoc_expand_once", "cdable_vars", "cdspell", "checkhash", "checkjobs",
    "checkwinsize", "cmdhist", "compat31", "compat32", "compat40", "compat41", "compat42",
    "compat43", "compat44", "complete_fullquote", "direxpand", "dirspell", "dotglob", "execfail",
    "expand_aliases", "extdebug", "extglob", "extquote", "failglob", "force_fignore",
    "globasciiranges", "globskipdots", "globstar", "gnu_errfmt", "histappend", "histreedit",
    "histverify", "hostcomplete", "huponexit", "inherit_errexit", "interactive_comments",
    "lastpipe", "lithist", "localvar_inherit", "localvar_unset", "login_shell", "mailwarn",
    "no_empty_cmd_completion", "nocaseglob", "nocasematch", "noexpand_translation", "nullglob",
    "patsub_replacement", "progcomp", "progcomp_alias", "promptvars", "restricted_shell",
    "shift_verbose", "sourcepath", "varredir_close", "xpg_echo"]

/-- The switches that are on when a script starts. -/
def initial : List String :=
  ["checkwinsize", "cmdhist", "complete_fullquote", "extquote", "force_fignore",
    "globasciiranges", "globskipdots", "hostcomplete", "interactive_comments",
    "patsub_replacement", "progcomp", "promptvars", "sourcepath"]

/-- The letters of options that are on unless they are kept among those of a script. -/
def usual : List Char := ['B', 'h']

/-- The letters of all options, in the order in which a script is told which are on. -/
def letters : List Char :=
  ['a', 'b', 'e', 'f', 'h', 'k', 'm', 'n', 'p', 't', 'u', 'v', 'x', 'B', 'C', 'E', 'H', 'P', 'T']

end Switches

namespace Machine

/-- A switch is on. -/
def isOn (m : Machine) (name : String) : Bool := m.switches.contains name

/-- The machine with a switch on or off. -/
def withSwitch (m : Machine) (on : Bool) (name : String) : Machine :=
  let others := m.switches.filter (· ≠ name)
  { m with switches := if on then name :: others else others }

/-- The option of a letter is on. -/
def isChosen (m : Machine) (letter : Char) : Bool :=
  m.options.contains letter ≠ Switches.usual.contains letter

/-- The machine with the option of a letter on or off. -/
def withChoice (m : Machine) (on : Bool) (letter : Char) : Machine :=
  let others := m.options.filter (· ≠ letter)
  { m with options := if on ≠ Switches.usual.contains letter then letter :: others else others }

/-- The switch that an option without a letter is. -/
def switchOf (option : String) : String :=
  if option = "interactive-comments" then "interactive_comments" else option

/-- An option is on. -/
def isSetByName (m : Machine) (option : String) (letter : Option Char) : Bool :=
  match letter with
  | some c => m.isChosen c
  | none => m.isOn (switchOf option)

/-- The options that are on, as a script finds them in a variable. -/
def optionNamesOn (m : Machine) : Octets :=
  Octets.join [':'] ((Switches.options.filter fun o => m.isSetByName o.1 o.2).map (·.1.toList))

/-- The switches that are on, as a script finds them in a variable. -/
def switchNamesOn (m : Machine) : Octets :=
  Octets.join [':'] ((Switches.names.filter m.isOn).map String.toList)

/-- The letters of the options that are on, and that of a script that is an argument. -/
def letters (m : Machine) : Octets :=
  Switches.letters.filter m.isChosen ++ ['c', 's'].filter m.options.contains

end Machine
end BulkSuppress.Shell

namespace BulkSuppress.Shell

/-! ## Variables -/

/-- A variable, or a place in an array. -/
structure Slot where
  name : String
  place : Option Octets := none
deriving DecidableEq, Repr

/-- The slot that a text names. -/
def Slot.ofText (cs : Octets) : Slot :=
  let name := cs.takeWhile isNameChar
  match cs.drop name.length with
  | '[' :: rest =>
    if rest.getLast? = some ']' then ⟨String.ofList name, some rest.dropLast⟩
    else ⟨String.ofList cs, none⟩
  | _ => ⟨String.ofList cs, none⟩

namespace Machine

/-- The name of the last variable in a chain of names that stand for others, of so many links. -/
def led (m : Machine) : Nat → Slot → Slot
  | 0, s => s
  | n + 1, s =>
    match m.binding? s.name with
    | some v =>
      match if v.leads then v.value else none with
      | some cs =>
        let next := Slot.ofText cs
        led m n (if next.place.isNone then { next with place := s.place } else next)
      | none => s
    | none => s

/-- The number of links in a chain of names. -/
def linkLimit : Nat := 8

/-- The slot that another one stands for. -/
def slot (m : Machine) (s : Slot) : Slot := m.led linkLimit s

/-- The version of the extended dialect. -/
def version : List String := ["5", "2", "15", "1", "release", "x86_64-pc-linux-gnu"]

/-- The names of the functions that are running, innermost first. -/
def callNames (m : Machine) : List Octets :=
  if m.frames.isEmpty then []
  else m.frames.map (fun f => if f.isFile then "source".toList else f.name) ++ ["main".toList]

/-- The lines from which these were called. -/
def callLines (m : Machine) : List Octets :=
  m.frames.map (fun f => (toString f.line).toList) ++ [['0']]

/-- The files in which these are defined. -/
def callFiles (m : Machine) : List Octets := m.frames.map (·.source) ++ [m.name]

/-- The elements of an array that the state of the script gives. -/
def ownElements? (m : Machine) (name : String) : Option (List Octets) :=
  match name with
  | "FUNCNAME" => some m.callNames
  | "BASH_LINENO" => some m.callLines
  | "BASH_SOURCE" => some m.callFiles
  | "PIPESTATUS" => some (m.pipeline.map fun n => (toString n).toList)
  | "BASH_VERSINFO" => some (version.map String.toList)
  | "GROUPS" => some [['0']]
  | "DIRSTACK" => some (m.here :: m.directories)
  | _ => none

/-- The value of a name that the state of the script gives. -/
def ownValue? (m : Machine) (name : String) : Option Octets :=
  match name with
  | "LINENO" => some (toString m.line).toList
  | "BASHPID" => some (toString (processNumber + m.copies)).toList
  | "BASH_SUBSHELL" => some (toString m.copies).toList
  | "SECONDS" => some (toString (m.clock / 1000000)).toList
  | "EPOCHSECONDS" => some (toString (m.now / 1000000000)).toList
  | "RANDOM" => some (toString (m.seed % 32768)).toList
  | "_" => some m.lastArgument
  | "SHELLOPTS" => some m.optionNamesOn
  | "BASHOPTS" => some m.switchNamesOn
  | _ => (m.ownElements? name).bind (·.head?)

/-- The elements of the array of a name; a variable without elements is one with a single one. -/
def elements? (m : Machine) (name : String) : Option Elements :=
  match m.dialect, m.ownElements? name with
  | .extended, some values => some (.ofList values)
  | _, _ =>
    (m.binding? name).bind fun v =>
      match v.elements with
      | some e => if v.isFilled || !e.toList.isEmpty then some e else none
      | none => v.value.map fun cs => .ofList [cs]

/-- The places of the array of a name are numbers. -/
def isListed (m : Machine) (name : String) : Bool :=
  match (m.binding? name).bind (·.elements) with
  | some e => e.isListed
  | none => true

/-- The value in a slot. -/
def slotValue? (m : Machine) (s : Slot) : Option Octets :=
  match s.place with
  | none => ((m.ownValue? s.name).or (m.value? s.name))
  | some place => (m.elements? s.name).bind fun e => e.get? place

/-- The value of a parameter, in the dialect of the script. -/
def held? (m : Machine) (name : String) : Option Octets :=
  match m.dialect with
  | .common => m.parameter? name
  | .extended =>
    if isName name.toList then m.slotValue? (m.slot ⟨name, none⟩)
    else if name = "-" then some m.letters
    else m.parameter? name

end Machine

namespace Run

/-- Put a value into a slot. -/
def store (s : Slot) (value : Octets) : Run Unit := do
  let m ← get
  let s := m.slot s
  match s.place with
  | none => Run.assign s.name value
  | some place =>
    let v := (m.binding? s.name).getD { exported := m.has 'a' }
    if v.readOnly then
      warn (s.name.toList ++ ": readonly variable".toList)
      throw .discarded
    let elements := v.elements.getD (Elements.listed ((v.value.map fun cs => (0, cs)).toList))
    set (m.withVariable s.name
      (some { v with value := none, elements := some (elements.insert place value), isFilled := true }))

end Run
end BulkSuppress.Shell
