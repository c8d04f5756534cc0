import BulkSuppress.Shell.Calculation

/-
  The arguments of commands that are part of the shell in the extended dialect. What is wrong with
  them is told with the usage of the command, and the script goes on.
-/

namespace BulkSuppress.Shell.Extended

/-- How each command is used. -/
def usages : List (String × String) :=
  [(".", ". filename [arguments]"), ("alias", "alias [-p] [name[=value] ... ]"),
    ("bg", "bg [job_spec ...]"), ("break", "break [n]"),
    ("builtin", "builtin [shell-builtin [arg ...]]"), ("caller", "caller [expr]"),
    ("cd", "cd [-L|[-P [-e]] [-@]] [dir]"), ("command", "command [-pVv] command [arg ...]"),
    ("continue", "continue [n]"),
    ("declare", "declare [-aAfFgiIlnrtux] [name[=value] ...] or " ++
      "declare -p [-aAfFilnrtux] [name ...]"),
    ("dirs", "dirs [-clpv] [+N] [-N]"), ("disown", "disown [-h] [-ar] [jobspec ... | pid ...]"),
    ("enable", "enable [-a] [-dnps] [-f filename] [name ...]"), ("eval", "eval [arg ...]"),
    ("exec", "exec [-cl] [-a name] [command [argument ...]] [redirection ...]"),
    ("exit", "exit [n]"), ("export", "export [-fn] [name[=value] ...] or export -p"),
    ("fg", "fg [job_spec]"), ("getopts", "getopts optstring name [arg ...]"),
    ("hash", "hash [-lr] [-p pathname] [-dt] [name ...]"),
    ("jobs", "jobs [-lnprs] [jobspec ...] or jobs -x command [args]"),
    ("kill", "kill [-s sigspec | -n signum | -sigspec] pid | jobspec ... or kill -l [sigspec]"),
    ("let", "let arg [arg ...]"), ("local", "local [option] name[=value] ..."),
    ("mapfile", "mapfile [-d delim] [-n count] [-O origin] [-s count] [-t] [-u fd] " ++
      "[-C callback] [-c quantum] [array]"),
    ("popd", "popd [-n] [+N | -N]"), ("printf", "printf [-v var] format [arguments]"),
    ("pushd", "pushd [-n] [+N | -N | dir]"), ("pwd", "pwd [-LP]"),
    ("read", "read [-ers] [-a array] [-d delim] [-i text] [-n nchars] [-N nchars] [-p prompt] " ++
      "[-t timeout] [-u fd] [name ...]"),
    ("readarray", "readarray [-d delim] [-n count] [-O origin] [-s count] [-t] [-u fd] " ++
      "[-C callback] [-c quantum] [array]"),
    ("readonly", "readonly [-aAf] [name[=value] ...] or readonly -p"), ("return", "return [n]"),
    ("set", "set [-abefhkmnptuvxBCEHPT] [-o option-name] [--] [-] [arg ...]"),
    ("shift", "shift [n]"), ("shopt", "shopt [-pqsu] [-o] [optname ...]"),
    ("source", "source filename [arguments]"), ("times", "times"),
    ("trap", "trap [-lp] [[arg] signal_spec ...]"), ("type", "type [-afptP] name [name ...]"),
    ("typeset", "typeset [-aAfFgiIlnrtux] name[=value] ... or typeset -p [-aAfFilnrtux] [name ...]"),
    ("ulimit", "ulimit [-SHabcdefiklmnpqrstuvxPRT] [limit]"),
    ("umask", "umask [-p] [-S] [mode]"), ("unalias", "unalias [-a] name [name ...]"),
    ("unset", "unset [-f] [-v] [-n] [name ...]"), ("wait", "wait [-fn] [-p var] [id ...]")]

/-- Tell how the command that is running is used. -/
def usage (name : String) : Run Unit := do
  Run.complain ((name ++ ": usage: " ++ (usages.lookup name).getD name).toList)
  Run.status 2

/-- Tell what is wrong, and fail. -/
def refuse (why : Octets) (status : Nat := 1) : Run Unit := do
  Run.warn why
  Run.status status

/-- An option with its value; one with a plus in front takes something back. -/
structure Choice where
  letter : Char
  value : Octets := []
  isOff : Bool := false

/-- What is wrong with options. -/
inductive Misuse where
  | unknown (letter : Char) (isOff : Bool)
  | noValue (letter : Char)

/--
The options that the letters of an argument spell, and whether the argument behind it is the value
of the last one. In `letters`, a colon follows an option with a value.
-/
def bundled (letters : String) (next : Option Octets) (isOff : Bool) :
    Octets → Except Misuse (List Choice × Bool)
  | [] => .ok ([], false)
  | c :: cs =>
    let behind := letters.toList.dropWhile (· ≠ c)
    if c = ':' || behind.isEmpty then .error (.unknown c isOff)
    else if behind.tail.head? = some ':' then
      match cs, next with
      | _ :: _, _ => .ok ([⟨c, cs, isOff⟩], false)
      | [], some value => .ok ([⟨c, value, isOff⟩], true)
      | [], none => .error (.noValue c)
    else (bundled letters next isOff cs).map fun r => (⟨c, [], isOff⟩ :: r.1, r.2)

/-- The options in front of arguments, and the rest; those with a plus only if that is said. -/
def choicesIn (letters : String) (plus : Bool) (args : List Octets) :
    Except Misuse (List Choice × List Octets) := do
  match args with
  | ['-', '-'] :: rest => return ([], rest)
  | (sign :: c :: cs) :: rest =>
    if sign = '-' || (plus && sign = '+') then
      let (choices, usesNext) ← bundled letters rest.head? (sign = '+') (c :: cs)
      let r ← choicesIn letters plus (rest.drop (if usesNext then 1 else 0))
      return (choices ++ r.1, r.2)
    else return ([], args)
  | rest => return ([], rest)
termination_by args.length
decreasing_by simp only [List.length_drop, List.length_cons]; omega

/-- Run with the options in front of arguments; wrong ones are told. -/
def withOptions (name letters : String) (args : List Octets)
    (act : List Choice → List Octets → Run Unit) (plus : Bool := false) : Run Unit := do
  match choicesIn letters plus args with
  | .ok (choices, rest) => act choices rest
  | .error (.unknown letter isOff) =>
    Run.warn ([if isOff then '+' else '-', letter] ++ ": invalid option".toList)
    usage name
  | .error (.noValue letter) =>
    Run.warn (['-', letter] ++ ": option requires an argument".toList)
    usage name

/-- An option is chosen. -/
def has (choices : List Choice) (letter : Char) : Bool :=
  choices.any fun c => c.letter = letter && !c.isOff

/-- The value of the last choice of an option. -/
def valueOf? (choices : List Choice) (letter : Char) : Option Octets :=
  (choices.reverse.find? fun c => c.letter = letter).map (·.value)

/-- The integer that a text spells, with blanks around it. -/
def number? (cs : Octets) : Option Int :=
  let blank (c : Char) : Bool := c = ' ' || ('\t' ≤ c && c ≤ '\r')
  let trimmed := ((cs.dropWhile blank).reverse.dropWhile blank).reverse
  let (negative, digits) := match trimmed with
    | '-' :: ds => (true, ds)
    | '+' :: ds => (false, ds)
    | ds => (false, ds)
  (decimal? digits).bind fun n =>
    let value : Int := if negative then -n else n
    if Sum.wrap value = value then some value else none

/-- The arguments behind two dashes, which only end options. -/
def behindDashes (args : List Octets) : List Octets :=
  if args.head? = some ['-', '-'] then args.drop 1 else args

/-- A name as messages quote it. -/
def inTicks (cs : Octets) : Octets := ['\x60'] ++ cs ++ ['\'']

end BulkSuppress.Shell.Extended
