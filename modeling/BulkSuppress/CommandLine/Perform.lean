import BulkSuppress.CommandLine.Arguments
import BulkSuppress.Options.Reading
import BulkSuppress.Report.Format
import BulkSuppress.Session
import BulkSuppress.Text.Quoted

/-
  From the arguments to what the program prints, how it exits and what it writes. The options
  file comes first, so that the arguments have the last word. Events are shown from the moment on
  at which the configuration is known; they go to the error output when the report is JSON. What
  shows them may be set otherwise by the environment, and is a `Subscriber`; the plain one shows
  the events that matter enough, without control characters.
-/

namespace BulkSuppress.CommandLine

/-- A line with its line end. -/
def line (text : String) : String := text ++ "\n"

/-- Lines with their line ends. -/
def unlines (texts : List String) : String := String.join (texts.map line)

/-- What shows events. -/
structure Subscriber where
  /-- What is said, in advance, about settings of the environment that cannot be used. -/
  complaint : String := ""
  /-- The text for events, where those are asked for that matter as much as the level. -/
  text : Level → List Event → String

/-- Each event that is asked for is shown as a line without control characters. -/
def Subscriber.plain : Subscriber where
  text level events := unlines ((Event.shown level events).map Text.harmless)

/-- What a program finds around it. -/
structure Surroundings where
  /-- The disk, with the working directory. -/
  disk : Disk
  launch : Launcher
  /-- Lines can be coloured. -/
  colors : Bool := false
  /-- Events are shown. -/
  logging : Bool := true
  /-- What shows them. -/
  subscriber : Subscriber := .plain

/-- What a program prints, and how it exits. -/
structure Output where
  out : String := ""
  err : String := ""
  exitCode : Nat := 0
deriving DecidableEq, Repr

/-- What a program leaves: the disk, and what it prints when it took a span of time. -/
structure Performance where
  disk : Disk
  output : Duration → Output

/-- The path of the working directory. -/
def workingDirectory (d : Disk) : Path := ⟨"/" ++ Path.slashed d.workingDirectory⟩

/-- The settings that the arguments make. -/
def Arguments.settings (a : Arguments) : List Config.Setting :=
  (a.pattern.map .pattern).toList ++ (a.concurrency.map .concurrency).toList ++
    (a.remark.map .remark).toList ++ (a.verbose.map fun _ => .verbose true).toList ++
    [.dryRun a.dryRun.isSome]

/-- The settings that the options file makes: the one that is asked for, or one that is found. -/
def fileSettings (a : Arguments) (d : Disk) : Except Failure (List Config.Setting) :=
  match a.optionsFile with
  | some p => (Options.load d p).map fun o => [.options o]
  | none =>
    (Options.discover d (workingDirectory d)).value.map fun found =>
      (found.map fun f => Config.Setting.options f.2).toList

/-- The configuration that the arguments ask for. -/
def configOf (a : Arguments) (directory : Path) (d : Disk) : Except Failure Config := do
  let fromFile ← fileSettings a d
  let draft : Config.Draft := { baseDir := directory }
  (draft.setAll (fromFile ++ a.settings)).build (.ok (workingDirectory d))

/-- The events that are shown for a configuration. -/
def threshold (c : Config) : Level :=
  if c.verbose then .debug else if c.dryRun then .info else .warn

/-- Lines that are shown for events, and where. -/
structure Journal where
  /-- What shows the events, and the level that it is asked for. -/
  shownBy : Option (Subscriber × Level)
  /-- The lines go to the error output. -/
  toErr : Bool

/-- The text for events. -/
def Journal.text (j : Journal) (events : List Event) : String :=
  match j.shownBy with
  | some (subscriber, level) => subscriber.text level events
  | none => ""

/-- What is printed for events. -/
def Journal.print (j : Journal) (events : List Event) : Output :=
  if j.toErr then { err := j.text events } else { out := j.text events }

/-- What is printed before the first event. -/
def Journal.opening (j : Journal) : Output :=
  match j.shownBy with
  | some (subscriber, _) => { err := subscriber.complaint }
  | none => {}

/-- What is printed by one part after the other. The last one decides how the program exits. -/
def Output.andThen (a b : Output) : Output :=
  ⟨a.out ++ b.out, a.err ++ b.err, b.exitCode⟩

/-- What is printed for a failure that ends the program. -/
def failed (f : Formatter) (e : Failure) : Output :=
  { err := line (f.errorLine e), exitCode := 1 }

/-- What is printed for a report. -/
def reported (f : Formatter) (format : Format) (r : BatchReport) : Output :=
  { out := line (match format with
      | .human => f.summary r
      | .json => f.json r)
    err := unlines (f.failureLines r)
    exitCode := if r.hasFailures then 1 else 0 }

/-- Seconds with two places; a half goes up. -/
def seconds2 (d : Duration) : String :=
  let hundredths := (d.seconds * 1000000000 + d.nanoseconds + 5000000) / 10000000
  let part := toString (hundredths % 100)
  toString (hundredths / 100) ++ "." ++ (if part.length = 1 then "0" ++ part else part) ++ "s"

/-- The exit code of a program that gives up on itself. -/
def panicCode : Nat := 101

/-- Run a session and print its report. -/
def perform (s : Surroundings) (a : Arguments) (directory : Path) : Performance :=
  let f : Formatter := {
    colored := a.noColor.isNone && s.colors
    dryRun := a.dryRun.isSome
    projectRoot := some (workingDirectory s.disk) }
  let format := a.format.getD .human
  match configOf a directory s.disk with
  | .error e => ⟨s.disk, fun _ => failed f e⟩
  | .ok c =>
    let journal : Journal :=
      ⟨if s.logging then some (s.subscriber, threshold c) else none, format = .json⟩
    let session := do
      Logged.report (.debug ("Configuration: " ++ c.shown))
      Session.runEslint s.launch c s.disk
    let before := journal.opening.andThen (journal.print session.events)
    match session.value with
    | (d, .error e) => ⟨d, fun _ => before.andThen (failed f e)⟩
    | (d, .ok none) => ⟨d, fun _ => before.andThen { exitCode := panicCode }⟩
    | (_, .ok (some result)) => ⟨result.disk, fun elapsed =>
      let main := before.andThen (reported f format { result.report with elapsed })
      let after := journal.print [.debug ("Finished in " ++ seconds2 elapsed)]
      main.andThen { after with exitCode := main.exitCode }⟩

/-- The name and the version of the program. -/
def versionText : String := "eslint-muter 0.1.0"

/-- How the program is used. -/
def helpText : String :=
  unlines [
    "ESLint Muter lints each matching file with the project's own ESLint and prepends a comment " ++
      "header disabling every violated rule, so a codebase can adopt a stricter configuration " ++
      "and fix violations later.",
    "",
    "Usage: eslint-muter [OPTIONS] <DIRECTORY>",
    "",
    "Arguments:",
    "  <DIRECTORY>  Directory to search for files",
    "",
    "Options:",
    "  -p, --pattern <PATTERN>          Glob pattern for files to lint [default: **/*.js]",
    "  -c, --concurrency <CONCURRENCY>  Maximum number of files processed at once [default: 10]",
    "  -v, --verbose                    Enable verbose logging",
    "  -x, --prefix <PREFIX>            Text of the comment placed above the suppressions",
    "      --config <CONFIG>            Options file path",
    "      --dry-run                    Lint and report without modifying any file",
    "  -f, --format <FORMAT>            Output format [default: human] [values: human, json]",
    "      --no-color                   Disable colored output",
    "  -h, --help                       Print help",
    "  -V, --version                    Print version"]

/-- Do what the arguments ask for. -/
def run (s : Surroundings) (args : List String) : Performance :=
  match Request.ofArguments args with
  | .rejected => ⟨s.disk, fun _ =>
    { err := line "error: unusable arguments; try --help", exitCode := 2 }⟩
  | .help => ⟨s.disk, fun _ => { out := helpText }⟩
  | .version => ⟨s.disk, fun _ => { out := line versionText }⟩
  | .run a directory => perform s a directory

end BulkSuppress.CommandLine
