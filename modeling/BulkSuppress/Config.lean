import BulkSuppress.Failure
import BulkSuppress.Options.Basic

/-
  The configuration of a run. Settings are applied to a draft one after the other, so that the
  last word counts; a draft becomes a configuration when its gaps are filled by defaults and the
  result is valid.
-/

namespace BulkSuppress

/-- The settings of a run. -/
structure Config where
  baseDir : Path
  projectRoot : Path
  ignoreFile : Path
  pattern : String
  concurrency : Nat
  /-- The text of a header's first line. -/
  remark : String
  verbose : Bool
  dryRun : Bool
deriving DecidableEq, Repr

namespace Config

def defaultPattern : String := "**/*.js"
def defaultConcurrency : Nat := 10
def defaultRemark : String := "TODO: Fix later."
def defaultIgnoreFile : Path := ⟨".eslintignore"⟩

/-- The configuration itself, if it can be used; else the first thing that is wrong with it. -/
def validate (c : Config) : Except Failure Config :=
  if c.baseDir.text.isEmpty then .error (.usage .noDirectory)
  else if c.concurrency = 0 then .error (.config .zeroConcurrency)
  else if c.remark.toList.contains '\n' || c.remark.toList.contains '\r' then
    .error (.config .prefixOverLines)
  else match Glob.parse c.pattern with
    | .error e => .error (.config (.invalidPattern c.pattern e))
    | .ok _ => .ok c

/-- The configuration as events show it. -/
def shown (c : Config) : String :=
  "MuterConfig \x7b base_dir: " ++ Text.quote c.baseDir.text ++
    ", project_root: " ++ Text.quote c.projectRoot.text ++
    ", ignore_file: " ++ Text.quote c.ignoreFile.text ++
    ", pattern: " ++ Text.quote c.pattern ++
    ", concurrency: " ++ toString c.concurrency ++
    ", comment_prefix: " ++ Text.quote c.remark ++
    ", verbose: " ++ toString c.verbose ++
    ", dry_run: " ++ toString c.dryRun ++ " \x7d"

/-- Settings that may still have gaps. -/
structure Draft where
  baseDir : Path
  projectRoot : Option Path := none
  ignoreFile : Option Path := none
  pattern : Option String := none
  concurrency : Option Nat := none
  remark : Option String := none
  verbose : Option Bool := none
  dryRun : Bool := false
deriving DecidableEq, Repr

/-- One word on the settings. -/
inductive Setting where
  | projectRoot (p : Path)
  | ignoreFile (p : Path)
  | pattern (p : String)
  | concurrency (n : Nat)
  | remark (text : String)
  | verbose (on : Bool)
  | dryRun (on : Bool)
  /-- All that an options file gives. -/
  | options (o : Options)
deriving DecidableEq, Repr

namespace Draft

/-- The draft with what an options file gives; what it leaves out stays. -/
def withOptions (d : Draft) (o : Options) : Draft :=
  { d with
    pattern := o.pattern.or d.pattern
    concurrency := o.concurrency.or d.concurrency
    remark := o.remark.or d.remark
    verbose := o.verbose.or d.verbose
    ignoreFile := o.ignoreFile.or d.ignoreFile }

/-- The draft with one more setting. -/
def set (d : Draft) : Setting → Draft
  | .projectRoot p => { d with projectRoot := some p }
  | .ignoreFile p => { d with ignoreFile := some p }
  | .pattern p => { d with pattern := some p }
  | .concurrency n => { d with concurrency := some n }
  | .remark text => { d with remark := some text }
  | .verbose on => { d with verbose := some on }
  | .dryRun on => { d with dryRun := on }
  | .options o => d.withOptions o

/-- The draft with the settings, in order. -/
def setAll (d : Draft) (settings : List Setting) : Draft :=
  settings.foldl set d

/-- The draft with defaults in its gaps. -/
def fill (d : Draft) (projectRoot : Path) : Config where
  baseDir := d.baseDir
  projectRoot := projectRoot
  ignoreFile := projectRoot.join (d.ignoreFile.getD defaultIgnoreFile)
  pattern := d.pattern.getD defaultPattern
  concurrency := d.concurrency.getD defaultConcurrency
  remark := d.remark.getD defaultRemark
  verbose := d.verbose.getD false
  dryRun := d.dryRun

/--
The configuration of a draft. `workingDirectory` is what asking for the working directory gives;
it takes the place of a project root that was not set.
-/
def build (d : Draft) (workingDirectory : Except SystemError Path) : Except Failure Config :=
  match d.projectRoot, workingDirectory with
  | some root, _ => (d.fill root).validate
  | none, .ok root => (d.fill root).validate
  | none, .error e => .error (.io e)

end Draft
end Config
end BulkSuppress
