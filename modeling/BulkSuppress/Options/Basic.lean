import BulkSuppress.Path.Basic
import BulkSuppress.Reading.Mismatch

/-
  Options: the settings that an options file may give, each of which may be left out, and what can
  be wrong with such a file.
-/

namespace BulkSuppress

/-- The settings of an options file. -/
structure Options where
  pattern : Option String := none
  concurrency : Option Nat := none
  remark : Option String := none
  verbose : Option Bool := none
  ignoreFile : Option Path := none
deriving DecidableEq, Repr

namespace Options

/-- The names of the options files that are looked for, first found first used. -/
def fileNames : List String :=
  ["eslint_muter.yaml", "eslint_muter.yml", ".eslint_muter.yaml"]

/-- The keys of an options file, in the order in which messages list them. -/
def keys : List String := ["pattern", "concurrency", "prefix", "verbose", "ignore_file"]

/-- What is wrong with a well-formed document. -/
inductive Complaint where
  | mismatch (m : Mismatch)
  | unknownKey (key : String)
  | repeatedKey (key : String)
deriving DecidableEq, Repr

/-- What is wrong with the text of an options file. -/
inductive Problem where
  /-- The text is not one well-formed document. -/
  | malformed
  /-- The document does not fit: the value of a key, or something else, at a place. -/
  | unfit (key : Option String) (what : Complaint) (at' : Position)
deriving DecidableEq, Repr

/-- The wording of a complaint. -/
def Complaint.message : Complaint → String
  | .mismatch m => m.message
  | .unknownKey key =>
    "unknown field `" ++ key ++ "`, expected one of " ++
      ", ".intercalate (keys.map fun k => "`" ++ k ++ "`")
  | .repeatedKey key => "duplicate field `" ++ key ++ "`"

/-- The end of a message that names a place; the very start of a text is not named. -/
def place (p : Position) : String :=
  if p = ⟨1, 1⟩ then "" else p.suffix

/-- The wording of a problem. -/
def Problem.message : Problem → String
  | .malformed => "<yaml>"
  | .unfit (some key) what at' => key ++ ": " ++ what.message ++ place at'
  | .unfit none what at' => what.message ++ place at'

end Options
end BulkSuppress
