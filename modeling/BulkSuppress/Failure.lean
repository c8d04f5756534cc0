import BulkSuppress.Glob.Basic
import BulkSuppress.Json.Error
import BulkSuppress.Log
import BulkSuppress.Options.Basic
import BulkSuppress.Path.Basic
import BulkSuppress.SystemError

/-
  Failures. Those of a kind that can only arise before any file is touched stop a run; the others
  belong to one file and are collected. Each cause has its wording in `message`.
-/

namespace BulkSuppress

/-- Why the command line cannot be used. -/
inductive UsageProblem where
  | noDirectory
  | other (text : String)
deriving DecidableEq, Repr

/-- Why the settings cannot be used. -/
inductive ConfigProblem where
  | zeroConcurrency
  | prefixOverLines
  | invalidPattern (pattern : String) (e : Glob.SyntaxError)
  | unreadableOptions (file : Path) (e : SystemError)
  /-- Options that cannot be read from the text of a file, or from a text of their own. -/
  | malformedOptions (file : Option Path) (e : Options.Problem)
  | other (text : String)
deriving DecidableEq, Repr

/-- Why the linter cannot be used. -/
inductive EngineProblem where
  | missing (executable : Path)
  | notStarted (executable : Path) (e : SystemError)
  | probeFailed (diagnostics : String)
  | other (text : String)
deriving DecidableEq, Repr

/-- Why the files cannot be enumerated. -/
inductive DiscoveryProblem where
  | missing
  | notDirectory
  | other (text : String)
deriving DecidableEq, Repr

/-- Why a pattern cannot be used. -/
inductive PatternProblem where
  | invalid (pattern : String) (e : Glob.SyntaxError)
  | other (text : String)
deriving DecidableEq, Repr

/-- Why linting a file failed. -/
inductive LintProblem where
  | notStarted (e : SystemError)
  | unreadable (e : Json.Error)
  | status (code : Nat) (diagnostics : String)
  | killed
  | other (text : String)
deriving DecidableEq, Repr

/-- What a file operation tried to do. -/
inductive FileAction where
  | read | write
deriving DecidableEq, Repr

/-- Why a file's pipeline ended without a result. -/
inductive PipelineProblem where
  /-- The pipeline with the given number stopped itself with a message. -/
  | panicked (number : Nat) (text : String)
  | other (text : String)
deriving DecidableEq, Repr

/-- Everything that can go wrong. -/
inductive Failure where
  | usage (why : UsageProblem)
  | config (why : ConfigProblem)
  | engineUnavailable (dependency : String) (root : Path) (why : EngineProblem)
  | discovery (root : Path) (why : DiscoveryProblem)
  | pattern (why : PatternProblem)
  | lint (file : String) (why : LintProblem)
  | fileAccess (action : FileAction) (file : Path) (e : SystemError)
  | pipeline (file : String) (why : PipelineProblem)
  | io (e : SystemError)
deriving DecidableEq, Repr

/-! ## Wording -/

def UsageProblem.message : UsageProblem → String
  | .noDirectory => "You must provide a directory path"
  | .other text => text

def ConfigProblem.message : ConfigProblem → String
  | .zeroConcurrency => "Concurrency must be at least 1"
  | .prefixOverLines => "Comment prefix must fit on a single line"
  | .invalidPattern pattern e => "Invalid file pattern '" ++ pattern ++ "': " ++ e.message
  | .unreadableOptions file e =>
    "Failed to read options file '" ++ file.text ++ "': " ++ e.message
  | .malformedOptions (some file) e =>
    "Failed to parse options file '" ++ file.text ++ "': " ++ e.message
  | .malformedOptions none e => "Failed to parse options: " ++ e.message
  | .other text => text

def EngineProblem.message : EngineProblem → String
  | .missing executable => executable.text ++ " does not exist"
  | .notStarted executable e => "failed to run " ++ executable.text ++ ": " ++ e.message
  | .probeFailed diagnostics => "version probe failed: " ++ diagnostics
  | .other text => text

def DiscoveryProblem.message : DiscoveryProblem → String
  | .missing => "directory does not exist"
  | .notDirectory => "not a directory"
  | .other text => text

def PatternProblem.message : PatternProblem → String
  | .invalid pattern e => "Invalid pattern '" ++ pattern ++ "': " ++ e.message
  | .other text => text

def LintProblem.message : LintProblem → String
  | .notStarted e => "failed to run ESLint: " ++ e.message
  | .unreadable e => "unreadable ESLint output: " ++ e.message
  | .status code diagnostics =>
    "ESLint exited with status " ++ toString code ++ ": " ++ diagnostics
  | .killed => "ESLint was terminated by a signal"
  | .other text => text

def FileAction.verb : FileAction → String
  | .read => "read"
  | .write => "write"

def PipelineProblem.message : PipelineProblem → String
  | .panicked number text =>
    "task " ++ toString number ++ " panicked with message " ++ Text.quote text
  | .other text => text

namespace Failure

/-- The wording of a failure. -/
def message : Failure → String
  | .usage why => "Usage error: " ++ why.message
  | .config why => "Configuration error: " ++ why.message
  | .engineUnavailable dependency root why =>
    "Could not find '" ++ dependency ++ "' in " ++ root.text ++ ": " ++ why.message ++
      ". Please ensure it is installed."
  | .discovery root why => "Discovery error in " ++ root.text ++ ": " ++ why.message
  | .pattern why => "Pattern error: " ++ why.message
  | .lint file why => "Lint error in " ++ file ++ ": " ++ why.message
  | .fileAccess action file e =>
    "Failed to " ++ action.verb ++ " " ++ file.text ++ ": " ++ e.message
  | .pipeline file why => "Pipeline for " ++ file ++ " aborted: " ++ why.message
  | .io e => "IO error: " ++ e.message

/-- The failure stops a run before any file is touched. -/
def isStartup : Failure → Bool
  | .usage _ | .config _ | .engineUnavailable .. | .discovery .. | .pattern _ => true
  | .lint .. | .fileAccess .. | .pipeline .. | .io _ => false

end Failure
end BulkSuppress
