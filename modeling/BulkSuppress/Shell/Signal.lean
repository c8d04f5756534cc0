import BulkSuppress.Shell.Octets

/-
  Signals, by name and number.
-/

namespace BulkSuppress.Shell.Signal

/-- The names of the signals, by number; the first one stands for the end of a script. -/
def names : List String :=
  ["EXIT", "HUP", "INT", "QUIT", "ILL", "TRAP", "ABRT", "BUS", "FPE", "KILL", "USR1", "SEGV",
    "USR2", "PIPE", "ALRM", "TERM", "16", "CHLD", "CONT", "STOP", "TSTP", "TTIN", "TTOU", "URG", "XCPU",
    "XFSZ", "VTALRM", "PROF", "WINCH", "IO", "PWR", "SYS"]

/-- The number after that of the last signal. -/
def limit : Nat := 65

/-- The number of a signal by name or number. -/
def number? (cs : Octets) : Option Nat :=
  match decimal? cs with
  | some n => if n < limit then some n else none
  | none => names.findIdx? fun name => name.toList = cs.map Char.toUpper

/-- The name of a signal. -/
def name (n : Nat) : String := names[n]?.getD ("RTMIN+" ++ toString (n - 34))

/-! ## Names for utilities -/

/-- The name by which utilities know a signal, if it has one. -/
def spelling? (n : Nat) : Option String :=
  if n = 16 then some "STKFLT"
  else if n = 29 then some "POLL"
  else if n ≤ 31 then names[n]?
  else if n = 34 then some "RTMIN"
  else if n = 64 then some "RTMAX"
  else if 34 < n && n < 50 then some ("RTMIN+" ++ toString (n - 34))
  else if 50 ≤ n && n < 64 then some ("RTMAX-" ++ toString (64 - n))
  else none

/-- The number of the signal that a utility is given by name, in either case, or by number. -/
def spelled? (cs : Octets) : Option Nat :=
  match decimal? cs with
  | some n => let n := if 128 < n then n % 128 else n
    (spelling? n).map fun _ => n
  | none =>
    let name := cs.map Char.toUpper
    let name := if "SIG".toList.isPrefixOf name then name.drop 3 else name
    let name := match String.ofList name with
      | "IO" => "POLL"
      | "CLD" => "CHLD"
      | "IOT" => "ABRT"
      | text => text
    (List.range limit).find? fun n => spelling? n = some name

/-- The number of the signal that asks for an end. -/
def termination : Nat := 15

/-- The signals that are not noticed unless a script does something about them. -/
def unnoticed : List Nat := [0, 17, 18, 23, 28]

/-- The signals that a script cannot do anything about. -/
def unavoidable : List Nat := [9, 19]

end BulkSuppress.Shell.Signal
