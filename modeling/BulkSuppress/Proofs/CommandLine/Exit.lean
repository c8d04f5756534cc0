import BulkSuppress.CommandLine.Perform
import BulkSuppress.Proofs.Json.Unambiguous
import BulkSuppress.Proofs.Pipeline.Eslint
import BulkSuppress.Proofs.Session.Containment

/-
  How the program exits and what it prints, whatever it is run on. A run goes one of four ways
  (`Course`): the configuration cannot be built, ESLint is not there, the files cannot be found, or
  the batch runs to its report. It exits with 0 in the last case only, if no file failed, and with 1
  otherwise. When the report is asked for as JSON, the output is the text of that one document, or
  nothing where there is no report; `output_of_run` puts this together.

  What shows events may be anything that makes texts of them, so that this holds for every filter
  that the environment sets. More pipelines than a semaphore has permits for make the program give
  up on itself, and are left out.
-/

namespace BulkSuppress

namespace Session

variable {launch : Launcher} {c : Config} {d d' : Disk}

theorem value_runEslint_of_error {why : Failure}
    (h : (Eslint.locate launch d c.projectRoot).value = (d', .error why)) :
    (runEslint launch c d).value = (d', .error why) := by
  simp only [runEslint, Logged.value_bind, h, Logged.value_pure]

theorem value_runEslint_of_ok {x : Eslint}
    (h : (Eslint.locate launch d c.projectRoot).value = (d', .ok x)) :
    (runEslint launch c d).value = (d', (run (x.engine launch) c d').value) := by
  simp only [runEslint, Logged.value_bind, h, Logged.value_pure]

end Session

namespace CommandLine
open Batch Session

/-- The way that a run goes: a failure that stops it before any file, or the report of a batch. -/
inductive Course (s : Surroundings) (a : Arguments) (directory : Path) :
    Except Failure BatchReport → Prop
  | noConfig {why : Failure} (h : configOf a directory s.disk = .error why) :
    Course s a directory (.error why)
  | noEslint {c : Config} {d : Disk} {why : Failure} (hc : configOf a directory s.disk = .ok c)
      (h : (Eslint.locate s.launch s.disk c.projectRoot).value = (d, .error why)) :
    Course s a directory (.error why)
  | noFiles {c : Config} {d : Disk} {x : Eslint} {why : Failure}
      (hc : configOf a directory s.disk = .ok c)
      (hx : (Eslint.locate s.launch s.disk c.projectRoot).value = (d, .ok x))
      (h : (discover c d).value = .error why) : Course s a directory (.error why)
  | ran {c : Config} {d : Disk} {x : Eslint} {files : List Path} {r : Logged Result}
      (hc : configOf a directory s.disk = .ok c)
      (hx : (Eslint.locate s.launch s.disk c.projectRoot).value = (d, .ok x))
      (hfiles : (discover c d).value = .ok files)
      (h : Batch.run (x.engine s.launch) (annotator c) c.concurrency d files = some r) :
    Course s a directory (.ok r.value.report)

/-- How the lines of a run are shown. -/
def formatterOf (s : Surroundings) (a : Arguments) : Formatter where
  colored := a.noColor.isNone && s.colors
  dryRun := a.dryRun.isSome
  projectRoot := some (workingDirectory s.disk)

variable {s : Surroundings} {a : Arguments} {directory : Path} {c : Config} {d : Disk}

/-! ## What is printed in each course -/

/-- The journal of a run. -/
def journalOf (s : Surroundings) (a : Arguments) (c : Config) : Journal where
  shownBy := if s.logging then some (s.subscriber, threshold c) else none
  toErr := a.format.getD .human = .json

/-- Events are no part of the output where it is JSON, whatever shows them. -/
theorem out_journalOf (h : a.format = some .json) (s : Surroundings) (c : Config) :
    (journalOf s a c).opening.out = "" ∧ ∀ events, ((journalOf s a c).print events).out = "" := by
  refine ⟨?_, fun events => ?_⟩
  · rw [Journal.opening]
    split <;> rfl
  · have herr : (journalOf s a c).toErr = true := by simp [journalOf, h]
    rw [Journal.print, herr]
    rfl

/-- What is printed before a run comes to its end. -/
def before (s : Surroundings) (a : Arguments) (c : Config) : Output :=
  (journalOf s a c).opening.andThen ((journalOf s a c).print (do
    Logged.report (.debug ("Configuration: " ++ c.shown))
    runEslint s.launch c s.disk).events)

theorem out_before (h : a.format = some .json) (s : Surroundings) (c : Config) :
    (before s a c).out = "" := by
  obtain ⟨hopening, hprint⟩ := out_journalOf h s c
  rw [before, Output.andThen, hopening, hprint]
  rfl

theorem output_of_value_error {why : Failure} (hc : configOf a directory s.disk = .ok c)
    (h : (runEslint s.launch c s.disk).value = (d, .error why)) (elapsed : Duration) :
    (perform s a directory).output elapsed
      = (before s a c).andThen (failed (formatterOf s a) why) := by
  simp only [perform, hc, Logged.value_bind, h]
  rfl

theorem output_of_value_ok {r : Result} (hc : configOf a directory s.disk = .ok c)
    (h : (runEslint s.launch c s.disk).value = (d, .ok (some r))) (elapsed : Duration) :
    ∃ said : Output, (a.format = some .json → said.out = "") ∧
      (perform s a directory).output elapsed
        = ((before s a c).andThen (reported (formatterOf s a) (a.format.getD .human)
            { r.report with elapsed })).andThen
          { said with exitCode := if r.report.hasFailures then 1 else 0 } := by
  refine ⟨(journalOf s a c).print [.debug ("Finished in " ++ seconds2 elapsed)],
    fun hjson => (out_journalOf hjson s c).2 _, ?_⟩
  simp only [perform, hc, Logged.value_bind, h]
  rfl

/-- A failure that stops the run is no part of the output, and nothing else is where it is JSON. -/
theorem output_of_error {why : Failure} (h : Course s a directory (.error why))
    (elapsed : Duration) : ((perform s a directory).output elapsed).exitCode = 1 ∧
      (a.format = some .json → ((perform s a directory).output elapsed).out = "") := by
  have hstopped {c : Config} {d : Disk} (hc : configOf a directory s.disk = .ok c)
      (hvalue : (runEslint s.launch c s.disk).value = (d, .error why)) :
      ((perform s a directory).output elapsed).exitCode = 1 ∧
        (a.format = some .json → ((perform s a directory).output elapsed).out = "") := by
    rw [output_of_value_error hc hvalue]
    refine ⟨rfl, fun hjson => ?_⟩
    rw [Output.andThen, out_before hjson]
    rfl
  cases h with
  | noConfig h =>
    simp only [perform, h]
    exact ⟨rfl, fun _ => rfl⟩
  | noEslint hc h => exact hstopped hc (value_runEslint_of_error h)
  | noFiles hc hx h =>
    have hvalue := value_runEslint_of_ok hx
    rw [run_eq_error_iff.2 h] at hvalue
    exact hstopped hc hvalue

/-- The report of a batch decides how the program exits, and is the output where it is JSON. -/
theorem output_of_report {report : BatchReport} (h : Course s a directory (.ok report))
    (elapsed : Duration) :
    ((perform s a directory).output elapsed).exitCode = (if report.hasFailures then 1 else 0) ∧
      (a.format = some .json → ((perform s a directory).output elapsed).out
        = (formatterOf s a).json { report with elapsed } ++ "\n") := by
  cases h with
  | ran hc hx hfiles h =>
    have hvalue := value_runEslint_of_ok hx
    rw [run_value hfiles, h] at hvalue
    obtain ⟨said, hsaid, hout⟩ := output_of_value_ok hc hvalue elapsed
    rw [hout]
    refine ⟨rfl, fun hjson => ?_⟩
    simp only [Output.andThen, out_before hjson, hsaid hjson, hjson]
    simp [reported, line]

/-! ## Whatever the course -/

theorem exists_course (hlimit : ∀ c, configOf a directory s.disk = .ok c →
    effectiveConcurrency c.concurrency ≤ permitLimit) : ∃ course, Course s a directory course := by
  cases hc : configOf a directory s.disk with
  | error why => exact ⟨_, .noConfig hc⟩
  | ok c =>
    cases hx : (Eslint.locate s.launch s.disk c.projectRoot).value with
    | mk d located =>
      cases located with
      | error why => exact ⟨_, .noEslint hc hx⟩
      | ok x =>
        cases hfiles : (discover c d).value with
        | error why => exact ⟨_, .noFiles hc hx hfiles⟩
        | ok files =>
          obtain ⟨r, hr⟩ := exists_run (x.engine s.launch) (annotator c) d files (hlimit c hc)
          exact ⟨_, .ran hc hx hfiles hr⟩

/-- Of what a report is written as, the number of failures. -/
theorem failed_document (f : Formatter) (r : BatchReport) :
    ((f.document r).value.member? "summary").bind (·.member? "failed")
      = some (.number (Nat.toDigits 10 r.failures.length)) := by
  have hsummary : ∀ key ∈ ["dry_run", "failures", "files"],
      (Json.units "summary" == Json.units key) = false := by decide
  have hfailed : ∀ key ∈ ["annotated", "clean", "elapsed_ms"],
      (Json.units "failed" == Json.units key) = false := by decide
  simp only [List.forall_mem_cons, List.not_mem_nil] at hsummary hfailed
  simp only [Formatter.document, Json.Document.value, Json.Document.entries, Json.Value.member?,
    List.lookup_cons, hsummary, hfailed, beq_self_eq_true, Option.bind_some]

/--
The program exits with 0 exactly if the configuration can be built, ESLint is there, the files can
be found and none of them fails, and with 1 otherwise. Where the report is asked for as JSON, the
output is empty if the run is stopped. Otherwise it is a text and a line end, and the text spells
one value, whose number of failures is zero exactly if the program exits with 0.
-/
theorem output_of_run {args : List String}
    (hargs : Request.ofArguments args = .run a directory)
    (hlimit : ∀ c, configOf a directory s.disk = .ok c →
      effectiveConcurrency c.concurrency ≤ permitLimit) (elapsed : Duration) :
    (∃ course, Course s a directory course) ∧
    (((run s args).output elapsed).exitCode = 0 ∨ ((run s args).output elapsed).exitCode = 1) ∧
    (((run s args).output elapsed).exitCode = 0 ↔
      ∃ report, Course s a directory (.ok report) ∧ report.failures = []) ∧
    (a.format = some .json →
      (∀ why, Course s a directory (.error why) → ((run s args).output elapsed).out = "") ∧
      ∀ report, Course s a directory (.ok report) → ∃ text v,
        ((run s args).output elapsed).out = text ++ "\n" ∧
        (∀ w, Json.IsText w text.toList ↔ w = v) ∧
        (v.member? "summary").bind (·.member? "failed")
          = some (.number (Nat.toDigits 10 report.failures.length)) ∧
        (report.failures.length = 0 ↔ ((run s args).output elapsed).exitCode = 0)) := by
  have hrun : run s args = perform s a directory := by simp only [run, hargs]
  have hcourse := exists_course hlimit
  rw [hrun]
  have hexit {report : BatchReport} (h : Course s a directory (.ok report)) :
      ((perform s a directory).output elapsed).exitCode = 0 ↔ report.failures = [] := by
    rw [(output_of_report h elapsed).1]
    simp [BatchReport.hasFailures]
  refine ⟨hcourse, ?_, ⟨fun h0 => ?_, fun ⟨report, h, hnone⟩ => (hexit h).2 hnone⟩, fun hjson =>
    ⟨fun why h => (output_of_error h elapsed).2 hjson, fun report h => ?_⟩⟩
  · obtain ⟨course, h⟩ := hcourse
    cases course with
    | error why => exact .inr (output_of_error h elapsed).1
    | ok report =>
      rw [(output_of_report h elapsed).1]
      split
      · exact .inr rfl
      · exact .inl rfl
  · obtain ⟨course, h⟩ := hcourse
    cases course with
    | error why =>
      rw [(output_of_error h elapsed).1] at h0
      cases h0
    | ok report => exact ⟨report, h, (hexit h).1 h0⟩
  · have htext := Json.Document.isText_toText ((formatterOf s a).document { report with elapsed })
    refine ⟨_, _, (output_of_report h elapsed).2 hjson, fun w => ⟨fun hw => hw.unique htext, ?_⟩,
      failed_document _ _, ?_⟩
    · rintro rfl
      exact htext
    · rw [hexit h, List.length_eq_zero_iff]

/-! ## Where there is nothing -/

/-- A disk without entries. Every event is shown, whatever is asked for. -/
def bareSurroundings : Surroundings where
  disk := {}
  launch := fun d _ _ _ => .ok (d, ⟨.exited 0, .empty, .empty⟩)
  subscriber := { text := fun _ events => unlines (events.map Event.line) }

/-- The source files are asked for, with every event, and the report as JSON. -/
def bareWords : List String := ["src", "-v", "--format", "json"]

/-- What is asked for with these words. -/
def bareArguments : Arguments where
  directory := some ⟨"src"⟩
  verbose := some ()
  format := some .json

def bareConfig : Config :=
  (({ baseDir := ⟨"src"⟩ } : Config.Draft).setAll bareArguments.settings).fill ⟨"/"⟩

theorem configOf_bareArguments (hhere : workingDirectory d = ⟨"/"⟩)
    (hnone : ∀ p ∈ Options.fileNames.map (Path.child ⟨"/"⟩), d.isFile p = false) :
    configOf bareArguments ⟨"src"⟩ d = .ok bareConfig := by
  have hfind : (Options.fileNames.map (Path.child ⟨"/"⟩)).find? d.isFile = none :=
    List.find?_eq_none.2 fun p hp => by simp [hnone p hp]
  have hsettings : fileSettings bareArguments d = .ok [] := by
    simp [fileSettings, bareArguments, Options.discover, hhere, hfind, Except.map]
  have hbuild : (({ baseDir := ⟨"src"⟩ } : Config.Draft).setAll bareArguments.settings).build
      (.ok ⟨"/"⟩) = .ok bareConfig := by decide +kernel
  simp only [configOf, hsettings, hhere]
  exact hbuild

theorem configOf_bare :
    configOf bareArguments ⟨"src"⟩ bareSurroundings.disk = .ok bareConfig :=
  configOf_bareArguments (by decide) fun p _ => Disk.isFile_empty p

theorem locate_bare :
    (Eslint.locate bareSurroundings.launch bareSurroundings.disk bareConfig.projectRoot).value
      = ({}, .error (.engineUnavailable Eslint.dependency bareConfig.projectRoot
        (.missing (Eslint.executablePath bareConfig.projectRoot)))) := by
  have hfile := Disk.isFile_empty (Eslint.executablePath bareConfig.projectRoot)
  simp only [Eslint.locate, bareSurroundings, hfile]
  rfl

/-! ## Where an ESLint is installed -/

/-- A project with an ESLint and one source file. -/
def installedDisk : Disk where
  entries := [(["node_modules"], .directory), (["node_modules", ".bin"], .directory),
    (["node_modules", ".bin", "eslint"], .file .empty true), (["src"], .directory),
    (["src", "a.js"], .file .empty false)]

/-- What an ESLint with no result leaves, when it ends with the code. -/
def noResults (code : Nat) : Finished := ⟨.exited code, Utf8.encode "[]", .empty⟩

/-- An ESLint that tells its version, and ends with the code and no result for every file. -/
def endingWith (code : Nat) : Launcher := fun d _ _ args =>
  .ok (d, if args = ["--version"] then ⟨.exited 0, Utf8.encode "v9.0.0", .empty⟩
    else noResults code)

def installedSurroundings (code : Nat) : Surroundings :=
  { bareSurroundings with disk := installedDisk, launch := endingWith code }

theorem resolve_installedDisk :
    installedDisk.resolve ⟨"/node_modules/.bin/eslint"⟩ = .ok ["node_modules", ".bin", "eslint"] ∧
    installedDisk.resolve ⟨"/src"⟩ = .ok ["src"] ∧
    installedDisk.resolve ⟨"/src/a.js"⟩ = .ok ["src", "a.js"] ∧
    installedDisk.resolve ⟨"/.eslintignore"⟩ = .error .notFound ∧
    ∀ p ∈ Options.fileNames.map (Path.child ⟨"/"⟩), installedDisk.resolve p = .error .notFound := by
  have hnames : Options.fileNames.map (Path.child ⟨"/"⟩) = [⟨"/eslint_muter.yaml"⟩,
      ⟨"/eslint_muter.yml"⟩, ⟨"/.eslint_muter.yaml"⟩] := by decide
  rw [hnames]
  simp only [Disk.resolve, Disk.locate]
  simp [Disk.walk, installedDisk, Disk.piecesOf, Text.pieces, Disk.startOf, Path.isAbsolute,
    Component.ofPiece?, Disk.kind?, Disk.entryAt?, Entry.kind, List.lookup_cons]
  exact ⟨rfl, rfl, rfl, rfl, rfl, rfl, rfl⟩

theorem isFile_installedDisk : installedDisk.isFile ⟨"/node_modules/.bin/eslint"⟩ = true ∧
    installedDisk.isFile ⟨"/src"⟩ = false ∧ installedDisk.isFile ⟨"/src/a.js"⟩ = true := by
  simp only [Disk.isFile, Disk.stat?, resolve_installedDisk]
  exact ⟨rfl, rfl, rfl⟩

theorem configOf_installed : configOf bareArguments ⟨"src"⟩ installedDisk = .ok bareConfig :=
  configOf_bareArguments (by decide) fun p hp => by
    simp only [Disk.isFile, Disk.stat?, resolve_installedDisk.2.2.2.2 p hp]

theorem locate_installed (code : Nat) :
    (Eslint.locate (endingWith code) installedDisk bareConfig.projectRoot).value
      = (installedDisk, .ok Pipeline.rootEslint) := by
  have hroot : bareConfig.projectRoot = ⟨"/"⟩ := by decide
  have hpath : Eslint.executablePath ⟨"/"⟩ = ⟨"/node_modules/.bin/eslint"⟩ := by decide
  have hversion : Finished.outText ⟨.exited 0, Utf8.encode "v9.0.0", .empty⟩ = "v9.0.0" := by
    decide +kernel
  simp [Eslint.locate, hroot, hpath, isFile_installedDisk, endingWith, ExitStatus.isSuccess,
    hversion, Pipeline.rootEslint]

theorem discover_installed : (discover bareConfig installedDisk).value = .ok [⟨"/src/a.js"⟩] := by
  obtain ⟨-, hsrc, -, hignore, -⟩ := resolve_installedDisk
  have hmake : Discoverer.make bareConfig.baseDir bareConfig.pattern bareConfig.projectRoot []
      = .ok ⟨Discoverer.sourcesBelow ⟨"/src"⟩, []⟩ := Discoverer.make_sourcesBelow ⟨"src"⟩
  have hchildren : installedDisk.children ["src"] = ["a.js"] := by
    simp [Disk.children, installedDisk, Disk.childName?]
  rw [discover_of_notFound hignore hmake]
  exact Discoverer.discover_sources_of_children hsrc rfl hchildren rfl (by decide)
    isFile_installedDisk.2.1 isFile_installedDisk.2.2

theorem limit_bareConfig : effectiveConcurrency bareConfig.concurrency ≤ permitLimit := by
  decide

theorem endingWith_arguments (code : Nat) (d : Disk) (p : Path) :
    endingWith code d Pipeline.rootEslint.projectRoot Pipeline.rootEslint.executable
      (Eslint.arguments p) = .ok (d, noResults code) := by
  rw [endingWith, if_neg (by simp [Eslint.arguments])]

/-- How the pipeline of the source file ends, if ESLint ends with the code. -/
def sourceEnding (code : Nat) : Pipeline.Ending :=
  Pipeline.ending (annotator bareConfig) ⟨"/src/a.js"⟩ (installedDisk.readBytes ⟨"/src/a.js"⟩)
    ((Pipeline.rootEslint.engine (endingWith code)).verdict installedDisk ⟨"/src/a.js"⟩)

theorem sourceEnding_zero : sourceEnding 0 = .finished .clean := by
  have hresults : LintReport.results (noResults 0).out = .ok [] := by decide +kernel
  rw [sourceEnding, Engine.verdict, Pipeline.value_lint_of_launch (endingWith_arguments 0 _ _),
    Pipeline.judge_of_results (.inl rfl) hresults]
  rfl

theorem sourceEnding_two : sourceEnding 2
    = .failed (.lint "/src/a.js" (.status 2 (Eslint.diagnostics (noResults 2)))) := by
  rw [sourceEnding, Engine.verdict, Pipeline.value_lint_of_launch (endingWith_arguments 2 _ _),
    Pipeline.judge_of_status rfl (by decide) (by decide)]
  rfl

/-- The run comes to a report, with what the pipeline of the source file fails with, if it does. -/
theorem exists_course_installed (code : Nat) : ∃ report,
    Course (installedSurroundings code) bareArguments ⟨"src"⟩ (.ok report) ∧
      report.failures = ((failure? 1 ⟨"/src/a.js"⟩ (sourceEnding code)).map
        (FileFailure.mk ⟨"/src/a.js"⟩)).toList := by
  obtain ⟨r, hr⟩ := exists_run (Pipeline.rootEslint.engine (endingWith code))
    (annotator bareConfig) installedDisk [⟨"/src/a.js"⟩] limit_bareConfig
  obtain ⟨t, ht, hdone, hvalue⟩ := exists_isDone_of_run hr
  have halone := asAlone_of_isDone (Pipeline.isLocal_engine (endingWith_arguments code))
    (List.pairwise_singleton _ _) ht hdone
  refine ⟨_, .ran configOf_installed (locate_installed code) discover_installed hr, ?_⟩
  rw [hvalue]
  exact halone.failures_singleton

theorem exists_course_clean : ∃ report,
    Course (installedSurroundings 0) bareArguments ⟨"src"⟩ (.ok report) ∧ report.failures = [] := by
  obtain ⟨report, hcourse, hfailures⟩ := exists_course_installed 0
  rw [sourceEnding_zero] at hfailures
  exact ⟨report, hcourse, hfailures⟩

theorem exists_course_failing : ∃ report why,
    Course (installedSurroundings 2) bareArguments ⟨"src"⟩ (.ok report) ∧
      report.failures = [⟨⟨"/src/a.js"⟩, why⟩] := by
  obtain ⟨report, hcourse, hfailures⟩ := exists_course_installed 2
  rw [sourceEnding_two] at hfailures
  exact ⟨report, _, hcourse, hfailures⟩

/-- The output is the text of one document, which counts so many failures, and a line end. -/
def Output.Counts (o : Output) (failed : Nat) : Prop :=
  ∃ text v, o.out = text ++ "\n" ∧ (∀ w, Json.IsText w text.toList ↔ w = v) ∧
    (v.member? "summary").bind (·.member? "failed") = some (.number (Nat.toDigits 10 failed))

/--
Without an ESLint, the program exits with 1, and events stay out of the output. With one that finds
nothing, it exits with 0, and its document counts no failure. With one that fails on the source
file, it exits with 1, and its document counts that failure.
-/
theorem output_of_run_samples :
    Request.ofArguments bareWords = .run bareArguments ⟨"src"⟩ ∧
      configOf bareArguments ⟨"src"⟩ bareSurroundings.disk = .ok bareConfig ∧
      configOf bareArguments ⟨"src"⟩ installedDisk = .ok bareConfig ∧
      effectiveConcurrency bareConfig.concurrency ≤ permitLimit ∧
      ((run bareSurroundings bareWords).output {}).out = "" ∧
      ((run bareSurroundings bareWords).output {}).exitCode = 1 ∧
      ((run (installedSurroundings 0) bareWords).output {}).Counts 0 ∧
      ((run (installedSurroundings 0) bareWords).output {}).exitCode = 0 ∧
      ((run (installedSurroundings 2) bareWords).output {}).Counts 1 ∧
      ((run (installedSurroundings 2) bareWords).output {}).exitCode = 1 := by
  have hargs : Request.ofArguments bareWords = .run bareArguments ⟨"src"⟩ := by decide +kernel
  obtain ⟨-, hexit, hzero, hjson⟩ := output_of_run (s := bareSurroundings) hargs
    (fun c hc => by cases configOf_bare.symm.trans hc; exact limit_bareConfig) {}
  have hinstalled (code : Nat) := output_of_run (s := installedSurroundings code) hargs
    (fun c hc => by cases configOf_installed.symm.trans hc; exact limit_bareConfig) {}
  have hstopped := (hjson rfl).1 _ (.noEslint configOf_bare locate_bare)
  have hcounts {code failed : Nat} {report : BatchReport}
      (h : Course (installedSurroundings code) bareArguments ⟨"src"⟩ (.ok report))
      (hfailed : report.failures.length = failed) :
      ((run (installedSurroundings code) bareWords).output {}).Counts failed := by
    obtain ⟨text, v, hout, hv, hcount, -⟩ := ((hinstalled code).2.2.2 rfl).2 report h
    exact ⟨text, v, hout, hv, hfailed ▸ hcount⟩
  obtain ⟨clean, hclean, hnone⟩ := exists_course_clean
  obtain ⟨failing, why, hfailing, hone⟩ := exists_course_failing
  refine ⟨hargs, configOf_bare, configOf_installed, limit_bareConfig, hstopped,
    hexit.resolve_left fun h0 => ?_, hcounts hclean (by rw [hnone]; rfl),
    (hinstalled 0).2.2.1.2 ⟨clean, hclean, hnone⟩,
    hcounts hfailing (by rw [hone]; rfl),
    (hinstalled 2).2.1.resolve_left fun h0 => ?_⟩
  · -- with a report, there would be a text in the output
    obtain ⟨report, hreport, -⟩ := hzero.1 h0
    obtain ⟨text, v, hout, -⟩ := (hjson rfl).2 report hreport
    rw [hstopped] at hout
    exact absurd (congrArg String.toList hout) (by simp)
  · obtain ⟨-, -, -, -, -, hiff⟩ := ((hinstalled 2).2.2.2 rfl).2 failing hfailing
    have hlength := hiff.2 h0
    rw [hone] at hlength
    cases hlength

end CommandLine
end BulkSuppress
