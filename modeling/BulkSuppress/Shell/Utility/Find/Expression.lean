import BulkSuppress.Shell.Utility.Mode
import BulkSuppress.Shell.Calendar.Reader
import BulkSuppress.Shell.Regex.Reader
import BulkSuppress.Shell.Utility.Values

/-
  Conditions on files, and what is to be done about those that meet them, as arguments spell them.
  The arguments are first read one by one; what combines them is found out afterwards.
-/

namespace BulkSuppress.Shell.Utility.Find

/-- What a number is compared with. -/
inductive Amount where
  | exactly (n : Nat)
  | above (n : Nat)
  | below (n : Nat)
deriving DecidableEq, Repr

/-- The number is as asked for. -/
def Amount.holds (n : Nat) : Amount → Bool
  | .exactly k => n = k
  | .above k => k < n
  | .below k => n < k

/-- The amount that a text spells. -/
def amount? (cs : Octets) : Option Amount :=
  match cs with
  | '+' :: ds => (decimal? ds).map .above
  | '-' :: ds => (decimal? ds).map .below
  | ds => (decimal? ds).map .exactly

/-- How rights are compared. -/
inductive ModeMatch where
  | exactly
  | all
  | some
deriving DecidableEq, Repr

/-- A condition on a file. -/
inductive Condition where
  | name (pattern : List PatternPart) (foldsCase : Bool)
  | path (pattern : List PatternPart) (foldsCase : Bool)
  | regex (r : Regex) (foldsCase : Bool)
  /-- Its kind has one of the letters; links are followed if that is not the rule, or not. -/
  | kind (letters : List Char) (otherwise : Bool)
  | size (amount : Amount) (unit : Nat)
  | empty
  | mode (how : ModeMatch) (mode : Nat)
  | target (pattern : List PatternPart) (foldsCase : Bool)
  | same (loc : Location)
  | links (amount : Amount)
  /-- Its age in days is as asked for, or in minutes of which the last one has begun. -/
  | age (byAccess inMinutes : Bool) (amount : Amount)
  /-- It was changed after a time, or looked at. -/
  | newer (byAccess : Bool) (than : Int)
  | usable (letter : Char)
  | constant (b : Bool)

/-- What is done about a file. -/
inductive Deed where
  /-- Write its path with an end. -/
  | print (file : Option Octets) (ending : Octets)
  /-- Write what a format makes of it. -/
  | format (file : Option Octets) (text : Octets)
  | list (file : Option Octets)
  /-- Run a program for it, perhaps in its directory, if that is not asked in vain. -/
  | run (command : List Octets) (inDirectory asks : Bool)
  /-- Run a program for all such files in the end. -/
  | gather (number : Nat) (command : List Octets) (inDirectory : Bool)
  | delete
  | prune
  | quit

/-- A condition or a deed, and what combines them. -/
inductive Expression where
  | condition (c : Condition)
  | deed (d : Deed)
  | not (a : Expression)
  | and (a b : Expression)
  | or (a b : Expression)
  /-- Both, of which the second one counts. -/
  | both (a b : Expression)

/-- What is asked for apart from conditions. -/
structure Settings where
  most : Option Nat := none
  least : Nat := 0
  contentsFirst : Bool := false
  follows : Bool := false
  /-- Links among the starting places are followed. -/
  followsStarts : Bool := false
  dialect : Regex.Dialect := { plainSigns := true }
  /-- Something is done about files that is not just looking. -/
  acts : Bool := false
  /-- The number of programs so far that are to be run in the end. -/
  gathers : Nat := 0

/-- A part of an expression. -/
inductive Item where
  | leaf (e : Expression)
  | not (text : Octets)
  | and (text : Octets)
  | or (text : Octets)
  | both
  | opening
  | closing

/-! ## Items -/

/-- Reading arguments, of which some are left. -/
abbrev Reader := StateT Settings (Except (List Octets))

/-- Give up. -/
def reject {α : Type} (why : Octets) : Reader α := throw [why]

/-- A text between an opening and a closing quote. -/
def marked (cs : Octets) : Octets := ['\x60'] ++ cs ++ ['\'']

/-- The pattern that a text spells, with the case of letters left out of account if that is so. -/
def patternOf (foldsCase : Bool) (cs : Octets) : List PatternPart :=
  patternParts ((if foldsCase then cs.map Char.toLower else cs).map fun c => (c, false))

/-- The letters of kinds of files. -/
def kindLetters : List Char := "bcdpflsD".toList

/-- The units of sizes. -/
def sizeUnits : List (Char × Nat) :=
  [('b', 512), ('c', 1), ('w', 2), ('k', 1024), ('M', 1048576), ('G', 1073741824)]

/-- The condition on a size that a text spells. -/
def sizeCondition (cs : Octets) : Reader Condition := do
  let unit := cs.getLast?.getD 'b'
  let (factor, body) ← match isDigit unit, sizeUnits.lookup unit with
    | true, _ => pure (512, cs)
    | false, some factor => pure (factor, cs.dropLast)
    | false, none => reject ("invalid -size type ".toList ++ marked [unit])
  match amount? body with
  | some a => return .size a factor
  | none => reject ("Invalid argument ".toList ++ marked cs ++ " to -size".toList)

/-- The condition on rights that a text spells. -/
def modeCondition (cs : Octets) : Reader Condition := do
  let (how, body) : ModeMatch × Octets := match cs with
    | '-' :: rest => (.all, rest)
    | '/' :: rest => (.some, rest)
    | rest => (.exactly, rest)
  match RightsChange.ofMode? body with
  | some changes => return .mode how (RightsChange.appliedAll changes false 0 0)
  | none => reject ("invalid mode ".toList ++ quoted cs)

/-- The names of regular expressions, and how they are written. -/
def dialects : List (String × Regex.Dialect) :=
  [("findutils-default", { plainSigns := true }), ("ed", {}), ("emacs", { plainSigns := true }),
    ("gnu-awk", { extended := true }), ("grep", {}), ("posix-awk", { extended := true }),
    ("awk", { extended := true }), ("posix-basic", {}),
    ("posix-egrep", { extended := true, looseBounds := true }),
    ("egrep", { extended := true, looseBounds := true }),
    ("posix-extended", { extended := true, strictStart := true, strictClose := true }),
    ("posix-minimal-basic", {}), ("sed", {})]

/-- The command up to the sign that ends it: its words, and whether it is run in the end. -/
def commandWords (name : Octets) (args : List Octets) : Reader (List Octets × Bool × Nat) := do
  let isEnd (i : Nat) : Bool :=
    args[i]? = some [';'] || (args[i]? = some ['+'] && 0 < i && args[i - 1]? = some "{}".toList)
  match (List.range args.length).find? isEnd with
  | none => reject ("missing argument to ".toList ++ marked name)
  | some 0 => reject ("invalid argument ".toList ++ marked [';'] ++ " to ".toList ++ marked name)
  | some n =>
    let gathers := args[n]? = some ['+']
    let words := args.take n
    if gathers && 1 < (words.filter (· = "{}".toList)).length then
      reject ("Only one instance of \x7b\x7d is supported with ".toList ++ name ++ " ... +".toList)
    return (if gathers then words.dropLast else words, gathers, n + 1)

/-- The deed of running a command, and the number of arguments that spell it. -/
def runItem (name : Octets) (inDirectory asks : Bool) (args : List Octets) :
    Reader (Expression × Nat) := do
  let (words, gathers, n) ← commandWords name args
  let number := (← get).gathers
  modify fun s => { s with acts := true, gathers := number + 1 }
  return (.deed (if gathers && !asks then .gather number words inDirectory
    else .run words inDirectory asks), n)

/-- The number that an argument has to be. -/
def levels (name : Octets) (cs : Octets) : Reader Nat := do
  match decimal? cs with
  | some n => return n
  | none => reject ("Expected a positive decimal integer argument to ".toList ++ name ++
      ", but got ".toList ++ quoted cs)

/-- The names of users and groups that are known. -/
def knownNames : List String :=
  ["root", "daemon", "bin", "sys", "sync", "games", "man", "lp", "mail", "news", "uucp", "proxy",
    "www-data", "backup", "list", "irc", "nobody"]

/-- The condition that something was changed or looked at after what a path leads to was. -/
def timeCondition (m : Machine) (byAccess isAccess : Bool) (path : Octets) :
    Reader (Option Condition) := do
  match m.disk.resolve ⟨Octets.toText path⟩ with
  | .ok loc =>
    let s := m.stampAt loc
    return some (.newer byAccess (if isAccess then s.access else s.change))
  | .error e => reject (quoted path ++ ": ".toList ++ (reasonOf e).toList)

/-- The condition that an argument with a value spells, given the files. -/
def valueItem (m : Machine) (name value : Octets) : Reader (Option Condition) := do
  let d := m.disk
  match String.ofList name with
  | "-name" => return some (.name (patternOf false value) false)
  | "-iname" => return some (.name (patternOf true value) true)
  | "-path" | "-wholename" => return some (.path (patternOf false value) false)
  | "-ipath" | "-iwholename" => return some (.path (patternOf true value) true)
  | "-lname" => return some (.target (patternOf false value) false)
  | "-ilname" => return some (.target (patternOf true value) true)
  | "-regex" | "-iregex" =>
    match Regex.parse (← get).dialect value with
    | .ok r => return some (.regex r (name = "-iregex".toList))
    | .error why =>
      reject ("failed to compile regular expression ".toList ++ quoted value ++ ": ".toList ++
        why.toList)
  | "-type" | "-xtype" =>
    let letters := Text.pieces ',' value
    match letters.find? fun l => !(l.length = 1 && l.all kindLetters.contains) with
    | some (c :: _) => reject ("Unknown argument to ".toList ++ name ++ ": ".toList ++ [c])
    | some [] =>
      reject ("Arguments to ".toList ++ name ++
        " should contain at least one letter".toList)
    | none => return some (.kind letters.flatten (name = "-xtype".toList))
  | "-size" => return some (← sizeCondition value)
  | "-perm" => return some (← modeCondition value)
  | "-links" | "-inum" | "-mtime" | "-atime" | "-ctime" | "-mmin" | "-amin" | "-cmin" | "-used" =>
    match amount? value with
    | none => reject ("invalid argument ".toList ++ marked value ++ " to ".toList ++ marked name)
    | some a =>
      return some (if name = "-links".toList then .links a
        else if name = "-inum".toList || name = "-used".toList then .constant false
        else
          .age (name[1]? = some 'a') ("min".toList.isSuffixOf name) a)
  | "-samefile" =>
    match d.resolve ⟨Octets.toText value⟩ with
    | .ok loc => return some (.same loc)
    | .error e => reject (quoted value ++ ": ".toList ++ (reasonOf e).toList)
  | "-newer" | "-anewer" | "-cnewer" => timeCondition m (name = "-anewer".toList) false value
  | "-user" | "-group" =>
    if knownNames.contains (String.ofList value) || (decimal? value).isSome then
      return some (.constant (value = "root".toList || value = ['0']))
    else
      reject (quoted value ++ " is not the name of a".toList ++
        (if name = "-user".toList then " known user" else "n existing group").toList)
  | "-uid" | "-gid" =>
    match amount? value with
    | some a => return some (.constant (a.holds 0))
    | none => reject ("invalid argument ".toList ++ marked value ++ " to ".toList ++ marked name)
  | "-fstype" => return some (.constant false)
  | "-maxdepth" =>
    let n ← levels name value
    modify fun s => { s with most := some n }
    return some (.constant true)
  | "-mindepth" =>
    let n ← levels name value
    modify fun s => { s with least := n }
    return some (.constant true)
  | "-regextype" =>
    match dialects.lookup (String.ofList value) with
    | some dialect =>
      modify fun s => { s with dialect }
      return some (.constant true)
    | none =>
      let names := dialects.map fun d => quoted d.1.toList
      reject ("Unknown regular expression type ".toList ++ quoted value ++
        "; valid types are ".toList ++ Octets.join ", ".toList names ++ ['.'])
  | _ =>
    match name.drop 6, "-newer".toList.isPrefixOf name with
    | [own, 't'], true =>
      if !"acm".toList.contains own then return none
      match Calendar.read? m.now value with
      | some t => return some (.newer (own = 'a') t)
      | none =>
        reject ("I cannot figure out how to interpret ".toList ++ quoted value ++
          " as a date or time".toList)
    | [own, other], true =>
      if !("acm".toList.contains own && "acm".toList.contains other) then return none
      else timeCondition m (own = 'a') (other = 'a') value
    | _, _ => return none

/-- The condition or deed that an argument without a value spells. -/
def plainItem (name : Octets) : Reader (Option Expression) := do
  let holds (b : Bool) : Option Expression := some (.condition (.constant b))
  let act (d : Deed) : Reader (Option Expression) := do
    modify fun s => { s with acts := true }
    return some (.deed d)
  match String.ofList name with
  | "-true" | "-noleaf" | "-mount" | "-xdev" | "-daystart" | "-warn" | "-nowarn"
  | "-ignore_readdir_race" | "-noignore_readdir_race" => return holds true
  | "-false" | "-nouser" | "-nogroup" => return holds false
  | "-empty" => return some (.condition .empty)
  | "-readable" => return some (.condition (.usable 'r'))
  | "-writable" => return some (.condition (.usable 'w'))
  | "-executable" => return some (.condition (.usable 'x'))
  | "-depth" | "-d" =>
    modify fun s => { s with contentsFirst := true }
    return holds true
  | "-follow" =>
    modify fun s => { s with follows := true, followsStarts := true }
    return holds true
  | "-print" => act (.print none ['\n'])
  | "-print0" => act (.print none ['\x00'])
  | "-ls" => act (.list none)
  | "-prune" => return some (.deed .prune)
  | "-quit" => act .quit
  | "-delete" =>
    modify fun s => { s with contentsFirst := true }
    act .delete
  | _ => return none

/-- The items that arguments spell; `last` is the argument with a pattern in front, if any. -/
def items (m : Machine) : Nat → (last : Option Octets) → List Octets → Reader (List Item)
  | 0, _, _ | _, _, [] => return []
  | n + 1, last, name :: rest => do
    let simple (i : Item) : Reader (List Item) := do return i :: (← items m n none rest)
    let missing {α : Type} : Reader α := reject ("missing argument to ".toList ++ marked name)
    match String.ofList name with
    | "(" => simple .opening
    | ")" => simple .closing
    | "," => simple .both
    | "!" | "-not" => simple (.not name)
    | "-a" | "-and" => simple (.and name)
    | "-o" | "-or" => simple (.or name)
    | "-exec" | "-execdir" | "-ok" | "-okdir" =>
      if rest.isEmpty then missing
      let inDirectory := name = "-execdir".toList || name = "-okdir".toList
      let asks := name = "-ok".toList || name = "-okdir".toList
      let (e, length) ← runItem name inDirectory asks rest
      return .leaf e :: (← items m n none (rest.drop length))
    | "-printf" | "-fprint" | "-fprint0" | "-fls" =>
      match rest with
      | [] => missing
      | value :: more =>
        modify fun s => { s with acts := true }
        let deed : Deed := match String.ofList name with
          | "-printf" => .format none value
          | "-fprint" => .print (some value) ['\n']
          | "-fprint0" => .print (some value) ['\x00']
          | _ => .list (some value)
        return .leaf (.deed deed) :: (← items m n none more)
    | "-fprintf" =>
      match rest with
      | file :: text :: more =>
        modify fun s => { s with acts := true }
        return .leaf (.deed (.format (some file) text)) :: (← items m n none more)
      | _ => missing
    | _ =>
      if name.head? ≠ some '-' || name.length < 2 then
        let first := "paths must precede expression: ".toList ++ marked name
        match if m.disk.exists? ⟨Octets.toText name⟩ then last else none with
        | some pattern =>
          throw [first, "possible unquoted pattern after predicate ".toList ++ marked pattern ++ ['?']]
        | none => reject first
      match ← plainItem name with
      | some e => return .leaf e :: (← items m n none rest)
      | none =>
        match rest with
        | [] =>
          match ← (fun s => match (valueItem m name []).run s with
              | .ok (none, _) => .ok (false, s)
              | _ => .ok (true, s) : Reader Bool) with
          | true => missing
          | false => reject ("unknown predicate ".toList ++ marked name)
        | value :: more =>
          match ← valueItem m name value with
          | some c =>
            let isPattern := ["-name", "-iname", "-path", "-ipath", "-wholename", "-iwholename",
              "-lname", "-ilname"].contains (String.ofList name)
            return .leaf (.condition c) ::
              (← items m n (if isPattern then some name else none) more)
          | none =>
            let what := if name.length = 8 && "-newer".toList.isPrefixOf name then "invalid predicate "
              else "unknown predicate "
            reject (what.toList ++ marked name)

/-! ## Expressions -/

/-- Combining items, of which some are left. -/
abbrev Combiner := StateT (List Item) (Except Octets)

/-- How an item is called in messages. -/
def Item.text : Item → Octets
  | .not t | .and t | .or t => t
  | .both => [',']
  | .opening => ['(']
  | .closing => [')']
  | .leaf _ => []

/-- The words of a message about an expression that makes no sense. -/
def invalid {α : Type} (why : String) : Combiner α := throw ("invalid expression; " ++ why).toList

/-- There has to be an operand behind an operator. -/
def demandOperand (operator : Octets) : Combiner Unit := do
  match ← get with
  | [] => throw ("expected an expression after ".toList ++ quoted operator)
  | .closing :: _ =>
    throw ("expected an expression between ".toList ++ quoted operator ++ " and ')'".toList)
  | _ => return

mutual

/-- Expressions of which the last one counts. -/
def sequence (depth : Nat) : Combiner Expression :=
  match depth with
  | 0 => throw []
  | depth + 1 => do
    let a ← alternatives depth
    sequenceTail depth a

/-- What stands behind an expression in a sequence. -/
def sequenceTail (depth : Nat) (a : Expression) : Combiner Expression :=
  match depth with
  | 0 => throw []
  | depth + 1 => do
    match ← get with
    | .both :: rest =>
      set rest
      demandOperand [',']
      sequenceTail depth (.both a (← alternatives depth))
    | _ => return a

/-- Expressions of which one has to hold. -/
def alternatives (depth : Nat) : Combiner Expression :=
  match depth with
  | 0 => throw []
  | depth + 1 => do
    let a ← conjunction depth
    alternativesTail depth a

/-- What stands behind an alternative. -/
def alternativesTail (depth : Nat) (a : Expression) : Combiner Expression :=
  match depth with
  | 0 => throw []
  | depth + 1 => do
    match ← get with
    | .or text :: rest =>
      set rest
      demandOperand text
      alternativesTail depth (.or a (← conjunction depth))
    | _ => return a

/-- Expressions that all have to hold. -/
def conjunction (depth : Nat) : Combiner Expression :=
  match depth with
  | 0 => throw []
  | depth + 1 => do
    let a ← single depth
    conjunctionTail depth a

/-- What stands behind an expression that has to hold. -/
def conjunctionTail (depth : Nat) (a : Expression) : Combiner Expression :=
  match depth with
  | 0 => throw []
  | depth + 1 => do
    match ← get with
    | .and text :: rest =>
      set rest
      demandOperand text
      conjunctionTail depth (.and a (← single depth))
    | .leaf _ :: _ | .not _ :: _ | .opening :: _ => conjunctionTail depth (.and a (← single depth))
    | _ => return a

/-- An item, its opposite, or an expression in parentheses. -/
def single (depth : Nat) : Combiner Expression :=
  match depth with
  | 0 => throw []
  | depth + 1 => do
    match ← get with
    | [] => throw []
    | .leaf e :: rest =>
      set rest
      return e
    | .not text :: rest =>
      set rest
      demandOperand text
      return .not (← single depth)
    | .opening :: rest =>
      set rest
      match rest with
      | [] => invalid ("expected to find a ')' but didn't see one. " ++
          "Perhaps you need an extra predicate after '('")
      | .closing :: _ => invalid "empty parentheses are not allowed."
      | _ => pure ()
      let e ← sequence depth
      match ← get with
      | .closing :: rest =>
        set rest
        return e
      | _ => invalid "I was expecting to find a ')' somewhere but did not see one."
    | .closing :: _ => throw "you have too many ')'".toList
    | i :: _ =>
      invalid ("you have used a binary operator '" ++ String.ofList i.text ++
        "' with nothing before it.")

end

/-- The expression that items make; nothing if there are none. -/
def expression (is : List Item) : Except Octets (Option Expression) :=
  if is.isEmpty then .ok none
  else
    match (sequence (16 * is.length + 16)).run is with
    | .ok (e, []) => .ok (some e)
    | .ok (_, _) => .error "you have too many ')'".toList
    | .error why => .error why

/-- An argument from which on arguments are no starting places. -/
def startsExpression (cs : Octets) : Bool :=
  match cs with
  | '-' :: _ :: _ => true
  | ['('] | ['!'] => true
  | _ => false

end BulkSuppress.Shell.Utility.Find
