import BulkSuppress.Shell.Builtin.Lookup
import BulkSuppress.Shell.Extended.Declare

/-
  What names stand for as commands in the extended dialect: the texts that words are replaced by,
  words of the language, functions, commands of the shell itself and programs.
-/

namespace BulkSuppress.Shell.Extended

/-- The names of the commands that are part of the shell. -/
def commandNames : List String :=
  [".", ":", "[", "alias", "bg", "bind", "break", "builtin", "caller", "cd", "command", "compgen",
    "complete", "compopt", "continue", "declare", "dirs", "disown", "echo", "enable", "eval",
    "exec", "exit", "export", "false", "fc", "fg", "getopts", "hash", "help", "history", "jobs",
    "kill", "let", "local", "logout", "mapfile", "popd", "printf", "pushd", "pwd", "read",
    "readarray", "readonly", "return", "set", "shift", "shopt", "source", "suspend", "test",
    "times", "trap", "true", "type", "typeset", "ulimit", "umask", "unalias", "unset", "wait"]

/-- The words of the language. -/
def keywords : List String :=
  ["if", "then", "else", "elif", "fi", "case", "esac", "for", "select", "while", "until", "do",
    "done", "in", "function", "time", "\x7b", "\x7d", "!", "[[", "]]", "coproc"]

/-- What a name stands for as a command. -/
inductive Meaning where
  | replaced (text : Octets)
  | keyword
  | function
  | builtin
  /-- The program at a path, which has been run before. -/
  | hashed (path : Octets)
  | file (path : Octets)
deriving DecidableEq, Repr

/-- The paths at which there is a program of a name. -/
def programPaths (m : Machine) (name : Octets) : List Octets :=
  (m.searchPaths name).filter fun path => (programAt m.disk path).toBool

/-- All that a name stands for, what counts first in front. -/
def meaningsOf (m : Machine) (name : Octets) (skipsFunctions : Bool) : List Meaning :=
  let text := String.ofList name
  let named (b : Bool) (x : Meaning) : List Meaning := if b then [x] else []
  let replaced := if m.isOn "expand_aliases" then (m.aliases.lookup text).map .replaced else none
  replaced.toList ++ named (keywords.contains text) .keyword ++
    named (!skipsFunctions && (m.functions.lookup text).isSome) .function ++
    named (commandNames.contains text) .builtin ++ (programPaths m name).map .file

/-- The word for a kind of meaning. -/
def Meaning.kind : Meaning → String
  | .replaced _ => "alias"
  | .keyword => "keyword"
  | .function => "function"
  | .builtin => "builtin"
  | .hashed _ | .file _ => "file"

/-- The text for a word as a command. -/
def aliasCommand (name text : Octets) : Octets :=
  "alias ".toList ++ name ++ ['='] ++ Quotes.single text ++ ['\n']

/-- What a name stands for, told at length. -/
def Meaning.told (shown : Octets → Octets) (name : Octets) : Meaning → Octets
  | .replaced text => name ++ " is aliased to ".toList ++ inTicks text ++ ['\n']
  | .keyword => name ++ " is a shell keyword\n".toList
  | .function => name ++ " is a function\n".toList ++ shown name
  | .builtin => name ++ " is a shell builtin\n".toList
  | .hashed path => name ++ " is hashed (".toList ++ path ++ ")\n".toList
  | .file path => name ++ " is ".toList ++ path ++ ['\n']

/-- What a name stands for, in short. -/
def Meaning.brief (name : Octets) : Meaning → Octets
  | .replaced text => aliasCommand name text
  | .hashed path | .file path => path ++ ['\n']
  | _ => name ++ ['\n']

/-- The first meaning of a name, of which a program may have been run before. -/
def meaningOf? (m : Machine) (name : Octets) (skipsFunctions : Bool) : Option Meaning :=
  match (meaningsOf m name skipsFunctions).head? with
  | some (.file path) =>
    match m.remembered.lookup (String.ofList name) with
    | some (path, _) => some (.hashed path)
    | none => some (.file path)
  | other => other

/-- Write what names stand for. -/
def types (shown : Octets → Octets) (args : List Octets) : Run Unit :=
  withOptions "type" "afptP" args fun choices rest => do
    let skips := has choices 'f'
    Run.status 0
    for name in rest do
      let m ← get
      let all := if has choices 'P' then (programPaths m name).map .file
        else meaningsOf m name skips
      let found := if has choices 'a' then all
        else if has choices 'P' then all.take 1
        else (meaningOf? m name skips).toList
      if found.isEmpty then
        if has choices 't' || has choices 'p' || has choices 'P' then Run.status 1
        else refuse (name ++ ": not found".toList)
      for x in found do
        if has choices 't' then Run.write (x.kind.toList ++ ['\n'])
        else if has choices 'p' || has choices 'P' then
          match x with
          | .hashed path | .file path => Run.write (path ++ ['\n'])
          | _ => pure ()
        else Run.write (x.told shown name)

/-- Write how names are called as commands, or what they stand for. -/
def describe (shown : Octets → Octets) (isLong : Bool) (names : List Octets) : Run Unit := do
  let m ← get
  let found := names.map fun name => (name, (meaningsOf m name false).head?)
  for (name, x) in found do
    match x with
    | some x => Run.write (if isLong then x.told shown name else x.brief name)
    | none => if isLong then Run.warn (name ++ ": not found".toList)
  Run.status (if found.any fun x => x.2.isSome then 0 else 1)

/-! ## Texts for words -/

/-- A word can have no text. -/
def isNoWord (name : Octets) : Bool :=
  name.isEmpty || name.any fun c => Quotes.isSign c || c = '/' || c = '='

/-- Set or write the texts that replace words. -/
def aliasing (args : List Octets) : Run Unit :=
  withOptions "alias" "p" args fun choices rest => do
    Run.status 0
    let m ← get
    if has choices 'p' || rest.isEmpty then
      for name in Octets.sorted (m.aliases.map (·.1.toList)) do
        Run.write (aliasCommand name ((m.aliases.lookup (String.ofList name)).getD []))
    for cs in rest do
      let name := cs.takeWhile (· ≠ '=')
      if name.length < cs.length && !name.isEmpty then
        if isNoWord name then refuse (inTicks name ++ ": invalid alias name".toList)
        else
          let text := cs.drop (name.length + 1)
          modify fun m => { m with aliases := withEntry (String.ofList name) text m.aliases }
      else
        match (← get).aliases.lookup (String.ofList cs) with
        | some text => Run.write (aliasCommand cs text)
        | none => refuse (cs ++ ": not found".toList)

/-- Forget the texts that replace words. -/
def unalias (args : List Octets) : Run Unit :=
  withOptions "unalias" "a" args fun choices rest => do
    Run.status 0
    if has choices 'a' then modify fun m => { m with aliases := [] }
    else if rest.isEmpty then usage "unalias"
    else
      for cs in rest do
        if ((← get).aliases.lookup (String.ofList cs)).isNone then
          refuse (cs ++ ": not found".toList)
        modify fun m => { m with aliases := m.aliases.filter fun e => e.1.toList ≠ cs }

/-! ## Programs that have been found -/

/-- The number of groups of the programs that have been found. -/
def programGroups : Nat := 256

/-- Note that a program has been found, or run. -/
def remember (name path : Octets) (isRun : Bool) : Run Unit :=
  modify fun m =>
    if name.contains '/' then m
    else
      let text := String.ofList name
      let hits := (m.hits.lookup text).getD 0 + (if isRun then 1 else 0)
      { m with
        remembered := withEntry text (path, true) m.remembered
        hits := withEntry text hits m.hits }

/-- The programs that have been found, in order. -/
def foundPrograms (m : Machine) : List (Octets × Octets × Nat) :=
  let all := m.remembered.map fun e => (e.1.toList, e.2.1, (m.hits.lookup e.1).getD 0)
  all.mergeSort fun a b => bucket programGroups a.1 ≤ bucket programGroups b.1

/-- Look for a program, and note where it is. -/
def lookFor (name : Octets) : Run Unit := do
  let m ← get
  let text := String.ofList name
  if name.contains '/' || commandNames.contains text || (m.functions.lookup text).isSome then return
  match (programPaths m name).head? with
  | some path =>
    modify fun m => { m with hits := m.hits.filter fun e => e.1 ≠ text }
    remember name path false
  | none => refuse (name ++ ": not found".toList)

/-- Look for programs, or list those that have been found. -/
def hash (args : List Octets) : Run Unit :=
  withOptions "hash" "dlp:rt" args fun choices rest => do
    Run.status 0
    let m ← get
    let all := foundPrograms m
    let known (name : Octets) : Option Octets := (m.remembered.lookup (String.ofList name)).map (·.1)
    if has choices 'r' then modify fun m => { m with remembered := [], hits := [] }
    if has choices 't' then
      for name in rest do
        match known name with
        | some path =>
          Run.write ((if rest.length = 1 then [] else name ++ ['\t']) ++ path ++ ['\n'])
        | none => refuse (name ++ ": not found".toList)
    else if has choices 'd' then
      for name in rest do
        if (known name).isNone then refuse (name ++ ": not found".toList)
        modify fun m => { m with
          remembered := m.remembered.filter fun e => e.1.toList ≠ name }
    else
      match valueOf? choices 'p', rest with
      | some path, rest => for name in rest do remember name path false
      | none, [] =>
        if has choices 'r' then return
        else if all.isEmpty then Run.write "hash: hash table empty\n".toList
        else if has choices 'l' then
          Run.write (all.flatMap fun e =>
            "builtin hash -p ".toList ++ e.2.1 ++ [' '] ++ e.1 ++ ['\n'])
        else
          Run.write ("hits\tcommand\n".toList ++ all.flatMap fun e =>
            let count := (toString e.2.2).toList
            List.replicate (4 - count.length) ' ' ++ count ++ ['\t'] ++ e.2.1 ++ ['\n'])
      | none, rest => rest.forM lookFor

/-! ## Calls -/

/-- Write from where the function that is running was called. -/
def caller (args : List Octets) : Run Unit := do
  let m ← get
  let (lines, names, files) := (m.callLines, m.callNames, m.callFiles)
  Run.status 0
  match behindDashes args with
  | [] =>
    if m.frames.isEmpty then Run.write "0 NULL\n".toList
    else Run.write (lines.headD [] ++ [' '] ++ files[1]?.getD [] ++ ['\n'])
  | cs :: _ =>
    match number? cs with
    | none =>
      Run.warn (cs ++ ": invalid number".toList)
      usage "caller"
    | some n =>
      let n := n.toNat
      match lines[n]?, names[n + 1]?, files[n + 1]? with
      | some line, some name, some file =>
        Run.write (line ++ [' '] ++ name ++ [' '] ++ file ++ ['\n'])
      | _, _, _ => Run.status 1

end BulkSuppress.Shell.Extended
