import BulkSuppress.Path.Basic

/-
  The arguments of the command line. Options may come before and after the directory, each at
  most once; short ones can be written together, and their values attached. An argument behind
  `--` is never an option. Reading stops at the first thing that is wrong.
-/

namespace BulkSuppress.CommandLine

/-- How the report is written. -/
inductive Format where
  | human | json
deriving DecidableEq, Repr

/-- What the arguments ask for. -/
structure Arguments where
  directory : Option Path := none
  pattern : Option String := none
  concurrency : Option Nat := none
  verbose : Option Unit := none
  remark : Option String := none
  optionsFile : Option Path := none
  dryRun : Option Unit := none
  format : Option Format := none
  noColor : Option Unit := none
deriving DecidableEq, Repr

/-- What is to be done. -/
inductive Request where
  | run (a : Arguments) (directory : Path)
  | version
  | help
  /-- The arguments cannot be used. -/
  | rejected
deriving DecidableEq, Repr

/-- An option. -/
inductive Flag where
  | pattern | concurrency | verbose | remark | optionsFile | dryRun | format | noColor
  | help | version
deriving DecidableEq, Repr

namespace Flag

/-- The option with a one-letter name. -/
def ofShort? : Char → Option Flag
  | 'p' => some .pattern
  | 'c' => some .concurrency
  | 'v' => some .verbose
  | 'x' => some .remark
  | 'f' => some .format
  | 'h' => some .help
  | 'V' => some .version
  | _ => none

/-- The option with a long name. -/
def ofLong? : String → Option Flag
  | "pattern" => some .pattern
  | "concurrency" => some .concurrency
  | "verbose" => some .verbose
  | "prefix" => some .remark
  | "config" => some .optionsFile
  | "dry-run" => some .dryRun
  | "format" => some .format
  | "no-color" => some .noColor
  | "help" => some .help
  | "version" => some .version
  | _ => none

/-- The option has a value. -/
def takesValue : Flag → Bool
  | .pattern | .concurrency | .remark | .optionsFile | .format => true
  | .verbose | .dryRun | .noColor | .help | .version => false

end Flag

/-- The largest number of pipelines that can be written down. -/
def concurrencyLimit : Nat := Nat.pow 2 64 - 1

/-- The number that a text spells: digits, perhaps behind a plus. -/
def number? (text : String) : Option Nat :=
  let digits := match text.toList with
    | '+' :: rest => rest
    | cs => cs
  if digits.isEmpty || !digits.all Char.isDigit then none
  else
    let n := digits.foldl (fun acc d => acc * 10 + (d.toNat - '0'.toNat)) 0
    if n ≤ concurrencyLimit then some n else none

/-- A path that is not empty. -/
def path? (text : String) : Option Path :=
  if text.isEmpty then none else some ⟨text⟩

/-- The format with a name. -/
def format? : String → Option Format
  | "human" => some .human
  | "json" => some .json
  | _ => none

/-- A field that has no value yet gets one. -/
def once {α : Type} (field value : Option α) : Option (Option α) :=
  match field, value with
  | none, some a => some (some a)
  | _, _ => none

namespace Arguments

/-- The arguments with one more option that has a value, if it is a good one. -/
def withValue (a : Arguments) (flag : Flag) (text : String) : Option Arguments :=
  match flag with
  | .pattern => (once a.pattern (some text)).map fun v => { a with pattern := v }
  | .concurrency => (once a.concurrency (number? text)).map fun v => { a with concurrency := v }
  | .remark => (once a.remark (some text)).map fun v => { a with remark := v }
  | .optionsFile => (once a.optionsFile (path? text)).map fun v => { a with optionsFile := v }
  | .format => (once a.format (format? text)).map fun v => { a with format := v }
  | _ => none

/-- The arguments with one more option that has no value. -/
def withSwitch (a : Arguments) (flag : Flag) : Option Arguments :=
  match flag with
  | .verbose => (once a.verbose (some ())).map fun v => { a with verbose := v }
  | .dryRun => (once a.dryRun (some ())).map fun v => { a with dryRun := v }
  | .noColor => (once a.noColor (some ())).map fun v => { a with noColor := v }
  | _ => none

/-- The arguments with the directory. -/
def withDirectory (a : Arguments) (text : String) : Option Arguments :=
  (once a.directory (path? text)).map fun v => { a with directory := v }

end Arguments

/-- What reading an argument comes to. -/
inductive Step where
  | next (a : Arguments)
  /-- The value of the option is the next argument. -/
  | awaits (a : Arguments) (flag : Flag)
  | stop (r : Request)

/-- Go on with the arguments, or reject them. -/
def Step.ofOption : Option Arguments → Step
  | some a => .next a
  | none => .stop .rejected

/-- The value attached to a short option; an equals sign in front of it does not count. -/
def attached : List Char → List Char
  | '=' :: rest => rest
  | cs => cs

/-- Read short options that are written together. -/
def shorts (a : Arguments) : List Char → Step
  | [] => .next a
  | c :: cs =>
    match Flag.ofShort? c with
    | none => .stop .rejected
    | some .help => .stop .help
    | some .version => .stop .version
    | some flag =>
      if flag.takesValue then
        if cs.isEmpty then .awaits a flag
        else .ofOption (a.withValue flag (String.ofList (attached cs)))
      else match a.withSwitch flag with
        | some a => shorts a cs
        | none => .stop .rejected

/-- Read a long option. -/
def long (a : Arguments) (cs : List Char) : Step :=
  let name := cs.takeWhile (· ≠ '=')
  let value := cs.drop name.length
  match Flag.ofLong? (String.ofList name), value with
  | none, _ => .stop .rejected
  | some .help, [] => .stop .help
  | some .version, [] => .stop .version
  | some flag, [] =>
    if flag.takesValue then .awaits a flag else .ofOption (a.withSwitch flag)
  | some flag, _ :: value =>
    if flag.takesValue then .ofOption (a.withValue flag (String.ofList value))
    else .stop .rejected

/-- An argument that is an option rather than a value. -/
def isOption (arg : String) : Bool :=
  arg.startsWith "-" && arg != "-"

/-- What is to be done when all arguments are read. -/
def Arguments.request (a : Arguments) : Request :=
  match a.directory with
  | some directory => .run a directory
  | none => .rejected

/-- Read arguments none of which is an option. -/
def values (a : Arguments) : List String → Request
  | [] => a.request
  | arg :: rest =>
    match a.withDirectory arg with
    | some a => values a rest
    | none => .rejected

/-- Read arguments. -/
def read (a : Arguments) : List String → Request
  | [] => a.request
  | arg :: rest =>
    if arg = "--" then values a rest
    else
      let step :=
        if arg.startsWith "--" then long a (arg.toList.drop 2)
        else if isOption arg then shorts a (arg.toList.drop 1)
        else .ofOption (a.withDirectory arg)
      match step with
      | .next a => read a rest
      | .stop r => r
      | .awaits a flag =>
        match rest with
        | [] => .rejected
        | value :: rest =>
          if isOption value then .rejected
          else match a.withValue flag value with
            | some a => read a rest
            | none => .rejected

/-- What the arguments ask for. -/
def Request.ofArguments (args : List String) : Request := read {} args

end BulkSuppress.CommandLine
