import BulkSuppress.Shell.Machine

/-
  The arguments of commands that are part of the shell itself. Arguments that make no sense end
  what is running, and it depends on the command whether the script goes on.
-/

namespace BulkSuppress.Shell.Builtin

/-- An option with its value, which is empty if it has none. -/
structure Choice where
  letter : Char
  value : Octets := []

/--
The options that the letters of an argument spell, and whether the argument behind it is the value
of the last one. In `letters`, a colon follows an option with a value.
-/
def bundled (letters : String) (next : Option Octets) : Octets → Run (List Choice × Bool)
  | [] => return ([], false)
  | c :: cs => do
    let behind := letters.toList.dropWhile (· ≠ c)
    if c = ':' || behind.isEmpty then Run.fail ("Illegal option -".toList ++ [c])
    else if behind.tail.head? = some ':' then
      match cs, next with
      | _ :: _, _ => return ([⟨c, cs⟩], false)
      | [], some value => return ([⟨c, value⟩], true)
      | [], none => Run.fail ("No arg for -".toList ++ [c] ++ " option".toList)
    else
      let r ← bundled letters next cs
      return (⟨c, []⟩ :: r.1, r.2)

/-- The options in front of arguments, and the rest. -/
def options (letters : String) (args : List Octets) : Run (List Choice × List Octets) := do
  match args with
  | ['-', '-'] :: rest => return ([], rest)
  | ('-' :: c :: cs) :: rest =>
    let (choices, usesNext) ← bundled letters rest.head? (c :: cs)
    let r ← options letters (rest.drop (if usesNext then 1 else 0))
    return (choices ++ r.1, r.2)
  | rest => return ([], rest)
termination_by args.length
decreasing_by simp only [List.length_drop, List.length_cons]; omega

/-- The number that an argument spells. -/
def number (cs : Octets) : Run Nat := do
  match decimal? cs with
  | some n => if n < 2147483648 then return n else Run.fail ("Illegal number: ".toList ++ cs)
  | none => Run.fail ("Illegal number: ".toList ++ cs)

/-- Octets in single quotes, as scripts have them. -/
def inQuotes (cs : Octets) : Octets :=
  ['\''] ++ cs.flatMap (fun c => if c = '\'' then "'\"'\"'".toList else [c]) ++ ['\'']
end BulkSuppress.Shell.Builtin
