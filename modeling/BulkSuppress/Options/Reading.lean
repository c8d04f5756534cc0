import BulkSuppress.Disk.Resolve
import BulkSuppress.Failure
import BulkSuppress.Log
import BulkSuppress.Options.Basic
import BulkSuppress.Text.Blank
import BulkSuppress.Yaml.Node.Compose
import BulkSuppress.Yaml.Plain

/-
  Reading options files. An options file is a YAML mapping with the known keys, each at most
  once; a key without a value, or with a null, counts as left out. The first thing that does not
  fit, in the order of the text, is reported.
-/

namespace BulkSuppress.Options

open Yaml (Document Node Scalar)

/-- The place where a node starts. -/
def positionOf : Node → Position
  | .scalar at' _ | .sequence at' _ | .mapping at' _ => at'
  | .alias _ => ⟨1, 1⟩

/-- Why a node, of which something else was expected, does not fit. -/
def mismatchOf (n : Node) (expected : String) : Mismatch :=
  match n with
  | .scalar _ s => s.mismatch expected
  | .sequence .. => .wrongType .sequence expected
  | .mapping .. => .wrongType .map expected
  | .alias _ => .wrongType .unit expected

/-- The value that `read` takes from a scalar node. -/
def valueOf {α : Type} (expected : String) (read : Scalar → Option α) (n : Node) :
    Except Mismatch α :=
  match n with
  | .scalar _ s =>
    match read s with
    | some a => .ok a
    | none => .error (s.mismatch expected)
  | n => .error (mismatchOf n expected)

/-- What has been read of a mapping. -/
structure Progress where
  options : Options := {}
  /-- The keys so far. -/
  seen : List String := []

/-- What is known about one entry: the mapping's place, and the key as messages name it. -/
structure Entry where
  whole : Position
  path : String
  value : Node

/-- The value of an entry, or nothing if it stands for nothing. -/
def Entry.read {α : Type} (e : Entry) (expected : String) (read : Scalar → Option α) :
    Except Problem (Option α) := do
  let nothing ← match e.value with
    | .scalar _ s => s.isNothing.mapError fun m => .unfit none (.mismatch m) e.whole
    | _ => pure false
  if nothing then return none
  else
    let a ← (valueOf expected read e.value).mapError fun m =>
      .unfit (some e.path) (.mismatch m) (positionOf e.value)
    return some a

/-- The options with the value of a known key. -/
def withEntry (o : Options) (key : String) (e : Entry) : Except Problem Options :=
  match key with
  | "pattern" => return { o with pattern := ← e.read "a string" fun s => some s.text }
  | "concurrency" => return { o with concurrency := ← e.read "usize" Scalar.natural? }
  | "prefix" => return { o with remark := ← e.read "a string" fun s => some s.text }
  | "verbose" => return { o with verbose := ← e.read "a boolean" Scalar.boolean? }
  | "ignore_file" =>
    return { o with ignoreFile := ← e.read "path string" fun s => some ⟨s.text⟩ }
  | _ => return o

/-- The key as messages about its value name it; a key that is an alias has no name. -/
def pathOf (key : Node) (name : String) : String :=
  match key with
  | .alias _ => "?"
  | _ => name

/-- Take one entry of the mapping up. -/
def readEntry (d : Document) (whole : Position) (p : Progress) (entry : Node × Node) :
    Except Problem Progress := do
  let key := d.resolve entry.1
  let name ← (valueOf "field identifier" (fun s => some s.text) key).mapError fun m =>
    .unfit none (.mismatch m) (positionOf key)
  if !keys.contains name then .error (.unfit none (.unknownKey name) (positionOf key))
  else if p.seen.contains name then .error (.unfit none (.repeatedKey name) whole)
  else
    let o ← withEntry p.options name ⟨whole, pathOf entry.1 name, d.resolve entry.2⟩
    return ⟨o, name :: p.seen⟩

/-- The options of a document. A scalar of which nothing is written gives none. -/
def ofDocument (d : Document) : Except Problem Options :=
  let unfit := .error (.unfit none (.mismatch (mismatchOf d.root "struct OptionsFile"))
    (positionOf d.root))
  match d.root with
  | .mapping whole entries => (entries.foldlM (readEntry d whole) {}).map (·.options)
  | .scalar _ s => if s.text.isEmpty && s.style = .plain then .ok {} else unfit
  | _ => unfit

/-- The options that a text gives. A blank text gives none. -/
def read (text : String) : Except Problem Options :=
  if Text.isAllBlank text.toList then .ok {}
  else match Document.parse? text with
    | none => .error .malformed
    | some none => .ok {}
    | some (some d) => ofDocument d

/-- The options of a text of its own. -/
def parse (text : String) : Except Failure Options :=
  (read text).mapError fun e => .config (.malformedOptions none e)

/-- The options of a file. -/
def load (d : Disk) (p : Path) : Except Failure Options :=
  match d.readText p with
  | .error e => .error (.config (.unreadableOptions p e))
  | .ok text => (read text).mapError fun e => .config (.malformedOptions (some p) e)

/-- The first options file of a directory and what it gives. -/
def discover (d : Disk) (dir : Path) : Logged (Except Failure (Option (Path × Options))) :=
  match (fileNames.map dir.child).find? d.isFile with
  | none => return .ok none
  | some p =>
    match load d p with
    | .error e => return .error e
    | .ok o => do
      Logged.report (.debug ("Loaded options from " ++ p.text))
      return .ok (some (p, o))

end BulkSuppress.Options
