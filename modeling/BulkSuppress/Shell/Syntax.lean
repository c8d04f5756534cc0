import BulkSuppress.Shell.Octets

/-
  Shell scripts as terms. Words keep what was quoted in them, since only what stands unquoted is
  split into fields or can hold wildcards. Commands that can fail by themselves know their lines.
-/

namespace BulkSuppress.Shell

/-- The language that a shell speaks. -/
inductive Dialect where
  /-- The one that all shells speak. -/
  | common
  /-- One with arrays, conditions in double brackets and more ways to change values. -/
  | extended
deriving DecidableEq, Repr

/-- What an expansion puts in place of a parameter that has no value. -/
inductive Fallback where
  /-- A word. -/
  | use
  /-- A word, which becomes the value. -/
  | assign
  /-- Nothing; the script ends, with a word to say why. -/
  | complain
  /-- Nothing, but a word in place of a value that is there. -/
  | replace
deriving DecidableEq, Repr

/-- What a redirection does with its descriptor. -/
inductive Opening where
  | read
  | write
  /-- Write, also what is to be kept as it is. -/
  | overwrite
  /-- Write behind what is there. -/
  | append
  /-- Read and write. -/
  | both
  /-- Lead where another descriptor leads, or nowhere. -/
  | duplicate
  /-- Read the document with a number. -/
  | document (number : Nat)
  /-- Read the target itself, and a line end. -/
  | text
deriving DecidableEq, Repr

/-- Where a pattern has to match, and how often another text comes in. -/
inductive Site where
  | first
  | all
  | front
  | back
deriving DecidableEq, Repr

/-- What becomes of letters. -/
inductive Casing where
  | upper
  | lower
  /-- The other case. -/
  | swapped
deriving DecidableEq, Repr

/-- What comes behind an arm that has run. -/
inductive Sequel where
  /-- Nothing. -/
  | done
  /-- The next arm, whatever its patterns are. -/
  | fallThrough
  /-- The next arm that matches. -/
  | goOn
deriving DecidableEq, Repr

mutual

/-- A part of a word. -/
inductive Part where
  | text (cs : Octets) (quoted : Bool)
  /-- The value of a parameter. -/
  | parameter (holder : Holder) (use : Use) (quoted : Bool)
  /-- What a script writes to its output, without the line ends behind it. -/
  | output (script : Command) (quoted : Bool)
  /-- The value of a calculation. -/
  | sum (body : List Part) (quoted : Bool)
  /-- The path at which a script that runs beside the command is read or written. -/
  | pipe (isRead : Bool) (script : Command)
  /-- An assignment, as an argument of a command that declares variables. -/
  | assigned (a : Assignment)
  /-- The items of an array. -/
  | items (items : List Assignment)

/-- What has a value. -/
inductive Holder where
  /-- A parameter by name, number or sign. -/
  | named (name : String)
  /-- An element of an array. -/
  | element (name : String) (index : List Part)
  /-- All elements of an array, each by itself or as one text. -/
  | elements (name : String) (each : Bool)
  /-- The parameter that is named by the value of another one. -/
  | behind (h : Holder)

/-- An assignment to a variable or an element of it. The items of an array have no name. -/
inductive Assignment where
  | mk (name : String) (index : Option (List Part)) (appends : Bool) (value : List Part)

/-- What an expansion takes from a parameter. -/
inductive Use where
  | value
  /-- The number of octets of its value. -/
  | length
  /-- Its value, if it has one; an empty one counts if `emptyCounts`. -/
  | withFallback (emptyCounts : Bool) (how : Fallback) (word : List Part)
  /-- Its value without a prefix or suffix of a pattern. -/
  | trimmed (suffix longest : Bool) (pattern : List Part)
  /-- Some of its octets or items, from a place on. -/
  | sliced (start : List Part) (length : Option (List Part))
  /-- Its value with another text in place of what a pattern matches. -/
  | replaced (site : Site) (pattern word : List Part)
  /-- Its value with other letters where a pattern matches them, or only its first octet. -/
  | cased (how : Casing) (isAll : Bool) (pattern : List Part)
  /-- Its value in a form that a letter names. -/
  | formed (letter : Char)
  /-- The places of the elements. -/
  | places
  /-- The names of variables that start with its own. -/
  | names (each : Bool)
  /-- Nothing that makes sense; how it is spelled. -/
  | unknown (spelled : Octets)

/-- A redirection of one descriptor. -/
inductive Redirection where
  | mk (descriptor : Nat) (opening : Opening) (target : List Part)

/-- A command. -/
inductive Command where
  /-- Nothing to do. -/
  | nothing
  | simple (line : Nat) (assignments : List Assignment) (words : List (List Part))
    (redirections : List Redirection)
  | redirected (line : Nat) (c : Command) (redirections : List Redirection)
  /-- A command in a copy of the shell. -/
  | subshell (line : Nat) (c : Command) (redirections : List Redirection)
  /-- Commands of which each reads what the one before it writes. -/
  | pipeline (cs : List Command)
  /-- A command that is not waited for. -/
  | background (c : Command)
  | opposite (c : Command)
  /-- The second one runs if the first one succeeds. -/
  | both (first second : Command)
  /-- The second one runs if the first one fails. -/
  | either (first second : Command)
  | sequence (first second : Command)
  | branch (condition yes no : Command)
  /-- The body runs as long as the condition succeeds, or fails if `isUntil`. -/
  | loop (isUntil : Bool) (condition body : Command)
  /-- The body runs with the name set to each item. -/
  | each (line : Nat) (name : String) (items : List (List Part)) (body : Command)
  /-- The first arm of which a pattern matches the subject runs. -/
  | choose (line : Nat) (subject : List Part) (arms : List (List (List Part) × Command × Sequel))
  | define (name : String) (body : Command)
  /-- A calculation, which succeeds if it is not zero. -/
  | calculation (line : Nat) (body : List Part)
  /-- The body runs as long as the condition is not zero; then the step is calculated. -/
  | counted (line : Nat) (start condition step : List Part) (body : Command)
  | condition (line : Nat) (c : Condition)
  /-- The body runs with the name set to the item that is read from the input. -/
  | menu (line : Nat) (name : String) (items : List (List Part)) (body : Command)
  /-- The time that a command takes is told. -/
  | timed (portably : Bool) (c : Command)

/-- A condition in double brackets. -/
inductive Condition where
  | unary (operator : String) (w : List Part)
  | binary (operator : String) (a b : List Part)
  | opposite (c : Condition)
  | both (first second : Condition)
  | either (first second : Condition)

end

/-- A word. -/
abbrev Word := List Part

instance : Inhabited Command := ⟨.nothing⟩

/-- The octets of a word in which nothing is expanded. -/
def plainText? : Word → Option Octets
  | [] => some []
  | .text cs _ :: rest => (plainText? rest).map (cs ++ ·)
  | _ => none

/-- The octets of a word without quotes or expansions. -/
def bareText? : Word → Option Octets
  | [] => some []
  | .text cs false :: rest => (bareText? rest).map (cs ++ ·)
  | _ => none

end BulkSuppress.Shell
