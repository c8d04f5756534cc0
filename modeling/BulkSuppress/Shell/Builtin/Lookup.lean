import BulkSuppress.Shell.Builtin.Arguments
import BulkSuppress.Shell.Grammar

/-
  What names stand for as commands, and the tables that are kept of names: the texts that replace
  words, and the programs that have been found. Both tables are listed by the groups of names.
-/

namespace BulkSuppress.Shell.Builtin

/-- The number of groups of the texts that replace words. -/
def aliasGroups : Nat := 39

/-- The number of groups of the programs that have been found. -/
def programGroups : Nat := 31

/-! ## Replacements of words -/

/-- The line that defines the text for a word. -/
def aliasLine (name : String) (text : Octets) : Octets :=
  name.toList ++ ['='] ++ inQuotes text ++ ['\n']

/-- Say that a word has no text. -/
def noAlias (command : String) (word : Octets) : Run Unit := do
  Run.complain (command.toList ++ ": ".toList ++ word ++ " not found".toList)
  Run.status 1

/-- Set or write the texts that replace words. -/
def aliasing (args : List Octets) : Run Unit := do
  Run.status 0
  if args.isEmpty then
    Run.write ((grouped aliasGroups (← get).aliases).flatMap fun e => aliasLine e.1 e.2)
  for cs in args do
    let front := cs.take 1 ++ (cs.drop 1).takeWhile (· ≠ '=')
    let name := String.ofList front
    if front.length < cs.length then
      let text := cs.drop (front.length + 1)
      modify fun m => { m with aliases := withEntry name text m.aliases }
    else
      match (← get).aliases.lookup name with
      | some text => Run.write (aliasLine name text)
      | none => noAlias "alias" cs

/-- Forget the texts that replace words. -/
def unalias (args : List Octets) : Run Unit := do
  let (choices, rest) ← options "a" args
  Run.status 0
  if !choices.isEmpty then modify fun m => { m with aliases := [] }
  else
    for cs in rest do
      let name := String.ofList cs
      if ((← get).aliases.lookup name).isNone then noAlias "unalias" cs
      modify fun m => { m with aliases := m.aliases.filter fun e => e.1 ≠ name }

/-! ## Meanings -/

/-- What a name stands for as a command. -/
inductive Meaning where
  | keyword
  | replaced (text : Octets)
  | special
  | function
  | builtin
  /-- The program at a path, which may have been found before. -/
  | program (path : Octets) (known : Bool)
  | nothing
deriving DecidableEq, Repr

/-- The names of the commands that are part of the shell, special ones apart. -/
def regularNames : List String :=
  ["[", "alias", "bg", "cd", "chdir", "command", "echo", "false", "fg", "getopts", "hash", "jobs",
    "kill", "printf", "pwd", "read", "test", "true", "type", "ulimit", "umask", "unalias",
    "wait"]

/-- What a name stands for. -/
def meaningOf (m : Machine) (name : Octets) : Meaning :=
  let text := String.ofList name
  if Grammar.keywords.contains text then .keyword
  else
    match m.aliases.lookup text with
    | some replacement => .replaced replacement
    | none =>
      if Grammar.specialNames.contains text then .special
      else if (m.functions.lookup text).isSome then .function
      else if regularNames.contains text then .builtin
      else if name.contains '/' then
        if m.disk.exists? ⟨Octets.toText name⟩ then .program name false else .nothing
      else
        match m.search name with
        | .ok path => .program path (m.remembered.lookup text).isSome
        | .error _ => .nothing

/-- Note where a program has been found. -/
def remember (name path : Octets) : Run Unit :=
  modify fun m =>
    if name.contains '/' then m
    else { m with remembered := withEntry (String.ofList name) (path, true) m.remembered }

/-- Write what a name stands for. -/
def tell (name : Octets) : Run Unit := do
  let is (text : String) : Run Unit := Run.write (name ++ text.toList ++ ['\n'])
  match meaningOf (← get) name with
  | .keyword => is " is a shell keyword"
  | .replaced text => Run.write (name ++ " is an alias for ".toList ++ text ++ ['\n'])
  | .special => is " is a special shell builtin"
  | .function => is " is a shell function"
  | .builtin => is " is a shell builtin"
  | .program path known =>
    remember name path
    let link := if known then " is a tracked alias for " else " is "
    Run.write (name ++ link.toList ++ path ++ ['\n'])
  | .nothing =>
    is ": not found"
    Run.status 127

/-- Write what names stand for; the status tells whether all of them do for something. -/
def types (args : List Octets) : Run Unit := do
  Run.status 0
  args.forM tell

/-- The words of a command that is called without functions, if that is what arguments ask for. -/
def commandWords? : List Octets → Option (List Octets)
  | ['-', '-'] :: rest => if rest.isEmpty then none else some rest
  | ('-' :: c :: cs) :: rest =>
    if (c :: cs).all (· = 'p') then commandWords? rest else none
  | [] => none
  | args => some args

/-- Write how a name is called as a command, or what it stands for. -/
def describe (args : List Octets) : Run Unit := do
  let (choices, rest) ← options "pvV" args
  Run.status 0
  match (choices.filter fun c => c.letter ≠ 'p').isEmpty, rest with
  | false, name :: _ =>
    if choices.any fun c => c.letter = 'V' then tell name
    else
      match meaningOf (← get) name with
      | .replaced text => Run.write ("alias ".toList ++ aliasLine (String.ofList name) text)
      | .program path _ =>
        remember name path
        Run.write (path ++ ['\n'])
      | .nothing => Run.status 127
      | _ => Run.write (name ++ ['\n'])
  | _, _ => return

/-- Look for programs, or list those that have been found. -/
def hash (args : List Octets) : Run Unit := do
  let (choices, rest) ← options "r" args
  Run.status 0
  if !choices.isEmpty then modify fun m => { m with remembered := [] }
  else if rest.isEmpty then
    for (_, path, isSure) in grouped programGroups (← get).remembered do
      Run.write (path ++ (if isSure then [] else ['*']) ++ ['\n'])
  else
    for name in rest do
      let text := String.ofList name
      modify fun m => { m with remembered := m.remembered.filter fun e => e.1 ≠ text }
      match meaningOf { ← get with aliases := [] } name with
      | .program path _ => remember name path
      | .nothing =>
        Run.warn (name ++ ": not found".toList)
        Run.status 1
      | _ => pure ()

end BulkSuppress.Shell.Builtin
