import BulkSuppress.Proofs.Discovery.SameDirectory
import BulkSuppress.Proofs.Glob.Grammar
import BulkSuppress.Proofs.Pipeline.Eslint
import BulkSuppress.Proofs.Session.DryRun
import BulkSuppress.Proofs.Session.Limits

/-
  What can go wrong before the first file, and what afterwards. Validation reads the selection
  pattern as it was written, discovery reads it normalized. One is a pattern exactly if the other is
  (`exists_make_iff`), so that an accepted pattern is never refused later. A session of an
  accepted configuration then fails for one reason only: its base is no directory
  (`fails_iff_not_directory`).

  A failure that stops a run is found by building the configuration, by looking for ESLint or by
  finding the files; one that a report tells of is found while a file is linted, read or written,
  or is a panic. An engine may fail on a file with any failure; those of ESLint are failures to lint
  (`Eslint.failsLate_engine`), and a pipeline has no others to add but those of file access.
  `Failure.isStartup` is to tell the one kind from the other, and does so with one exception
  (`failures_by_phase`): where no project root is set and the working directory is not known, a
  configuration fails with what the system says, and a system error counts as a failure of a file
  (`unknown_directory_is_not_startup`).
-/

namespace BulkSuppress

namespace Discoverer

/-- There is a discoverer for every pattern that can be read, whatever is ignored. -/
theorem exists_make_iff {base root : Path} {pattern : String} {ignore : List String} :
    (∃ made, make base pattern root ignore = .ok made) ↔ ∃ g, Glob.parse pattern = .ok g := by
  rw [← Glob.exists_parse_normalizeSource_iff]
  cases h : Glob.parse (Glob.normalizeSource pattern) with
  | error e => simp [make, h]
  | ok selection => simp [make, h]

end Discoverer

namespace Session
open Batch Discoverer

variable {engine : Engine} {c : Config} {d : Disk}

/-- With a pattern that can be read, the files are those of a discoverer. -/
theorem exists_discover_eq (hpattern : ∃ g, Glob.parse c.pattern = .ok g) (d : Disk) :
    ∃ s : Discoverer, s.base = resolveBase c.projectRoot c.baseDir ∧
      (discover c d).value = (s.discover d).value := by
  obtain ⟨glob, hglob⟩ := (Glob.exists_parse_normalizeSource_iff c.pattern).2 hpattern
  obtain ⟨made, hmake⟩ : ∃ made, make c.baseDir c.pattern c.projectRoot
      (Exclusion.IgnoreList.load d c.ignoreFile).value.patterns = .ok made :=
    exists_make_iff.2 hpattern
  refine ⟨made.value, by rw [value_of_make hglob hmake], ?_⟩
  simp only [discover, Logged.value_bind, hmake]

/--
The pattern of an accepted configuration can be read in its normalized form as well, as for any
text, and so there is a discoverer, whatever is ignored. A session fails exactly if the base is
no directory, and says so; the engine has no part in it.
-/
theorem fails_iff_not_directory {draft : Config.Draft} {wd : Except SystemError Path}
    {c : Config} (h : draft.build wd = .ok c) :
    (∀ text, (∃ g, Glob.parse text = .ok g) ↔
      ∃ g, Glob.parse (Glob.normalizeSource text) = .ok g) ∧
    (∀ ignore, ∃ made, make c.baseDir c.pattern c.projectRoot ignore = .ok made) ∧
    ∀ (engine : Engine) (d : Disk),
      ((∃ e, (run engine c d).value = .error e) ↔
        d.isDirectory (resolveBase c.projectRoot c.baseDir) = false) ∧
      ∀ e, (discover c d).value = .error e ∨ (run engine c d).value = .error e →
        ∃ why, e = .discovery (resolveBase c.projectRoot c.baseDir) why := by
  have hpattern := (Config.isValid_of_build h).pattern
  refine ⟨fun text => (Glob.exists_parse_normalizeSource_iff text).symm,
    fun ignore => exists_make_iff.2 hpattern, fun engine d => ?_⟩
  obtain ⟨s, hbase, hvalue⟩ := exists_discover_eq hpattern d
  simp only [run_eq_error_iff, or_self, hvalue, ← hbase]
  rcases s.discover_cases d with ⟨loc, hloc, hdir, hfiles⟩ | ⟨hdir, why, hfails⟩
  · rw [hfiles, isDirectory_iff.2 ⟨loc, hloc, hdir⟩]
    simp
  · rw [hfails, hdir]
    simp only [Except.error.injEq, exists_eq', true_and]
    exact fun e he => ⟨why, he.symm⟩

/-! ## A pattern that normalization cuts into -/

/-- The sources, picked by a pattern with idle pieces inside brackets and beside `**`. -/
def idleDraft : Config.Draft := sourcesDraft.set (.pattern "./[!/./]//**/.")

def idleConfig : Config := { sourcesConfig with pattern := "./[!/./]//**/." }

theorem build_idleDraft : idleDraft.build (.ok ⟨"/"⟩) = .ok idleConfig := by
  decide +kernel

theorem isDirectory_idleConfig :
    aliasDisk.isDirectory (resolveBase idleConfig.projectRoot idleConfig.baseDir) = true ∧
      ({} : Disk).isDirectory (resolveBase idleConfig.projectRoot idleConfig.baseDir) = false := by
  have hbase : resolveBase idleConfig.projectRoot idleConfig.baseDir = ⟨"/src"⟩ := by decide
  have hmissing : ({} : Disk).resolve ⟨"/src"⟩ = .error .notFound := by
    simp only [Disk.resolve, Disk.locate]
    simp [Disk.walk, Disk.piecesOf, Text.pieces, Disk.startOf, Path.isAbsolute,
      Component.ofPiece?, Disk.kind?, Disk.entryAt?]
    rfl
  rw [hbase, isDirectory_iff, ← Bool.not_eq_true, isDirectory_iff, hmissing]
  refine ⟨⟨["src"], resolve_aliasDisk.2.2.1, rfl⟩, ?_⟩
  rintro ⟨loc, hloc, -⟩
  cases hloc

/-- The pattern is accepted and can be read normalized; what the base is decides the rest. -/
theorem fails_iff_not_directory_sample :
    idleDraft.build (.ok ⟨"/"⟩) = .ok idleConfig ∧
      (∃ g, Glob.parse "[!/]/**" = .ok g) ∧
      (¬ ∃ e, (run strictEngine idleConfig aliasDisk).value = .error e) ∧
      ∃ why, (run strictEngine idleConfig {}).value =
        .error (.discovery (resolveBase idleConfig.projectRoot idleConfig.baseDir) why) := by
  obtain ⟨hreads, -, hfails⟩ := fails_iff_not_directory build_idleDraft
  have hpattern : Glob.normalizeSource idleConfig.pattern = "[!/]/**" := by decide
  obtain ⟨hthere, hmissing⟩ := isDirectory_idleConfig
  refine ⟨build_idleDraft, ?_, ?_, ?_⟩
  · exact hpattern ▸ (hreads idleConfig.pattern).1 (Config.isValid_of_build build_idleDraft).pattern
  · rw [(hfails strictEngine aliasDisk).1, hthere]
    exact Bool.noConfusion
  · obtain ⟨hiff, hwhy⟩ := hfails strictEngine {}
    obtain ⟨e, he⟩ := hiff.2 hmissing
    obtain ⟨why, rfl⟩ := hwhy e (.inr he)
    exact ⟨why, he⟩

end Session

/-! ## Before the first file -/

namespace Config

variable {c : Config} {why : Failure} {draft : Draft} {wd : Except SystemError Path}

theorem isStartup_of_validate (h : c.validate = .error why) : why.isStartup = true := by
  unfold validate at h
  repeat' split at h
  all_goals cases h <;> rfl

/-- A draft fails with a failure of another phase only if nothing tells the project root. -/
theorem Draft.build_late_iff : draft.build wd = .error why ∧ why.isStartup = false ↔
    draft.projectRoot = none ∧ ∃ e, wd = .error e ∧ why = .io e := by
  have hvalid {root : Path} : ¬ ((draft.fill root).validate = .error why ∧
      why.isStartup = false) := by
    rintro ⟨h, hlate⟩
    rw [isStartup_of_validate h] at hlate
    cases hlate
  unfold build
  cases hroot : draft.projectRoot with
  | some root => simpa using hvalid
  | none =>
    cases wd with
    | ok root => simpa using hvalid
    | error e =>
      constructor
      · rintro ⟨h, -⟩
        exact ⟨rfl, e, rfl, (Except.error.inj h).symm⟩
      · rintro ⟨-, e', he, rfl⟩
        cases he
        exact ⟨rfl, rfl⟩

end Config

namespace Eslint

variable {launch : Launcher} {d d' : Disk} {root p : Path} {why : Failure} {f : Finished}

/-- Whatever keeps ESLint from being used, the failure says that it cannot be. -/
theorem isStartup_of_locate (h : (locate launch d root).value = (d', .error why)) :
    why.isStartup = true := by
  have hunavailable {d : Disk} {problem : EngineProblem}
      (heq : (d, .error (.engineUnavailable dependency root problem)) =
        (d', (.error why : Except Failure Eslint))) : why.isStartup = true := by
    rw [Prod.mk.injEq, Except.error.injEq] at heq
    rw [← heq.2]
    rfl
  simp only [locate] at h
  split at h
  · exact hunavailable h
  split at h
  · exact hunavailable h
  split at h
  · exact hunavailable h
  · simp only [Prod.mk.injEq, reduceCtorEq, and_false] at h

end Eslint

namespace Discoverer

variable {s : Discoverer} {d : Disk} {base root : Path} {pattern : String} {ignore : List String}
variable {why : Failure}

theorem isStartup_of_make (h : make base pattern root ignore = .error why) :
    why.isStartup = true := by
  unfold make at h
  split at h
  · cases h
    rfl
  · cases h

theorem isStartup_of_discover (h : (s.discover d).value = .error why) : why.isStartup = true := by
  rcases s.discover_cases d with ⟨loc, -, -, hfiles⟩ | ⟨-, problem, hfails⟩
  · rw [hfiles] at h
    cases h
  · rw [hfails] at h
    cases h
    rfl

end Discoverer

namespace Session

variable {engine : Engine} {c : Config} {d : Disk} {why : Failure}

theorem isStartup_of_discover (h : (discover c d).value = .error why) : why.isStartup = true := by
  simp only [discover, Logged.value_bind] at h
  split at h
  · rename_i e hmake
    cases h
    exact Discoverer.isStartup_of_make hmake
  · exact Discoverer.isStartup_of_discover h

end Session

/-! ## File by file -/

/-- The engine fails on files with failures of files. -/
def Engine.FailsLate (e : Engine) : Prop :=
  ∀ d p why, (e.lint d p).value.2 = .failed why → why.isStartup = false

namespace Eslint

variable {launch : Launcher} {p : Path} {why : Failure} {f : Finished}

theorem isStartup_of_judge (h : (judge p f).value = .error why) : why.isStartup = false := by
  unfold judge LintReport.read at h
  repeat' split at h
  all_goals cases h <;> rfl

/-- ESLint fails on a file with a failure to lint it. -/
theorem failsLate_engine (x : Eslint) (launch : Launcher) : (x.engine launch).FailsLate := by
  intro d p why h
  simp only [engine, lint, Logged.value_bind] at h
  cases hlaunch : launch d x.projectRoot x.executable (arguments p) with
  | error e =>
    simp only [hlaunch, Logged.value_pure, Verdict.failed.injEq] at h
    rw [← h]
    rfl
  | ok run =>
    obtain ⟨d', f⟩ := run
    simp only [hlaunch, Logged.value_bind, Logged.value_pure] at h
    cases hjudge : (judge p f).value with
    | ok rules =>
      rw [hjudge] at h
      cases h
    | error e =>
      rw [hjudge] at h
      cases h
      exact isStartup_of_judge hjudge

end Eslint

namespace Pipeline

variable {e : Engine} {a : Annotator} {p : Path}

/-- If the pipeline has failed, it was with a failure of its file. -/
def Stage.FailsLate : Stage → Prop
  | .ended (.failed why) => why.isStartup = false
  | _ => True

/-- No step of a pipeline fails with anything but a failure of its file. -/
theorem failsLate_step (he : e.FailsLate) (d : Disk) {stage : Stage} (h : stage.FailsLate) :
    (step e a p d stage).value.2.FailsLate := by
  cases stage with
  | linting =>
    simp only [step, Logged.value_bind, Logged.value_pure]
    cases hv : (e.lint d p).value.2 with
    | failed why => exact he d p why hv
    | panicked text => trivial
    | rules rules =>
      simp only [verdictStep, takeRules, Logged.value_bind]
      cases rules.isEmpty with
      | true => trivial
      | false => cases a.dryRun <;> trivial
  | reading rules =>
    simp only [step, readStep, read, Logged.value_bind, Logged.value_pure]
    cases d.readText p with
    | error e => rfl
    | ok content => trivial
  | writing rules content =>
    simp only [step, write, Logged.value_bind, Logged.value_pure]
    split <;> trivial
  | ended how => exact h

end Pipeline

namespace Batch
open Pipeline

variable {u : Setup} {d : Disk} {files : List Path} {s : State}

theorem failsLate_of_reachable (he : u.engine.FailsLate) (h : Reachable u d files s) :
    ∀ w ∈ s.workers, w.stage.FailsLate :=
  h.forall_workers (fun _ => trivial) fun d _ hw => failsLate_step he d hw

theorem isStartup_of_failure? {number : Nat} {p : Path} {how : Ending} {why : Failure}
    (hlate : (Stage.ended how).FailsLate) (h : failure? number p how = some why) :
    why.isStartup = false := by
  cases how with
  | finished o => cases h
  | failed why' =>
    cases h
    exact hlate
  | panicked text =>
    cases h
    rfl

/-- However far a batch has got, its report tells of failures of files only. -/
theorem isStartup_of_mem_failures (he : u.engine.FailsLate) (h : Reachable u d files s) :
    ∀ f ∈ s.report.failures, f.failure.isStartup = false := by
  intro f hf
  rw [State.report, collect_eq] at hf
  have hmem := (Path.sortOn_perm FileFailure.path (reportOf 1 s.joined).failures).mem_iff.1 hf
  obtain ⟨⟨⟨p, how⟩, number⟩, hj, hfail⟩ := List.mem_filterMap.1 hmem
  obtain ⟨why, hwhy, rfl⟩ := Option.map_eq_some_iff.1 hfail
  -- the pipeline that ended so is one of the batch
  have hworker : ended (p, how) ∈ s.workers :=
    (ledger_of_reachable h).joined.subset (List.mem_map_of_mem (List.fst_mem_of_mem_zipIdx hj))
  exact isStartup_of_failure? (failsLate_of_reachable he h _ hworker) hwhy

end Batch

namespace Session
open Batch Config Discoverer

/-! ## The two phases -/

/--
What keeps a configuration from being built is a startup failure, but for one case: without a
project root that is set, the system error about the working directory. What keeps ESLint from being
used is one, and so is what keeps a session, with any engine, from finding its files and from
running. Wherever the moves of a batch with ESLint have led, and after a session with it, no failure
in the report is one.
-/
theorem failures_by_phase (draft : Draft) (wd : Except SystemError Path) (launch : Launcher)
    (x : Eslint) (engine : Engine) (c : Config) (d : Disk) :
    (∀ why, draft.build wd = .error why ∧ why.isStartup = false ↔
      draft.projectRoot = none ∧ ∃ e, wd = .error e ∧ why = .io e) ∧
    (∀ d' why, (Eslint.locate launch d c.projectRoot).value = (d', .error why) →
      why.isStartup = true) ∧
    (∀ why, (discover c d).value = .error why ∨ (run engine c d).value = .error why →
      why.isStartup = true) ∧
    (∀ a concurrency files l,
      Loop.Reachable (setupOf (x.engine launch) a concurrency) d files l →
        ∀ f ∈ l.report.failures, f.failure.isStartup = false) ∧
    ∀ r, (run (x.engine launch) c d).value = .ok (some r) →
      ∀ f ∈ r.report.failures, f.failure.isStartup = false := by
  refine ⟨fun _ => Draft.build_late_iff, fun _ _ => Eslint.isStartup_of_locate, fun why h => ?_,
    fun a n files l hl => ?_, fun r hr => ?_⟩
  · rw [run_eq_error_iff, or_self] at h
    exact isStartup_of_discover h
  · obtain ⟨hopen, hs⟩ := Loop.open_of_reachable hl
    rw [Loop.report_of_isOpen hopen]
    exact isStartup_of_mem_failures (x.failsLate_engine launch) hs
  · cases hfiles : (discover c d).value with
    | error why =>
      rw [run_eq_error_iff.2 hfiles] at hr
      cases hr
    | ok files =>
      rw [run_value hfiles] at hr
      obtain ⟨b, hb, rfl⟩ := Option.map_eq_some_iff.1 (Except.ok.inj hr)
      obtain ⟨s, hs, -, hvalue⟩ := exists_isDone_of_run hb
      rw [hvalue]
      exact isStartup_of_mem_failures (x.failsLate_engine launch) hs

/-! ## Failures of either phase -/

/-- No program can be started. -/
def startNothing : Launcher := fun _ _ _ _ => .error .notFound

/-- Batches with an ESLint that cannot be started, one file at a time. -/
def strandedSetup : Setup :=
  setupOf (Pipeline.rootEslint.engine startNothing) ⟨"x", false⟩ 1

/-- The file is reported on as soon as its pipeline has been waited for. -/
theorem reachable_stranded : ∃ l, Loop.Reachable strandedSetup {} [⟨"/a.js"⟩] l ∧
    l.report.failures = [⟨⟨"/a.js"⟩, .lint "/a.js" (.notStarted .notFound)⟩] := by
  obtain ⟨s, hm, hjoined⟩ : ∃ s, perform strandedSetup (start strandedSetup {} [⟨"/a.js"⟩])
      [.acquire, .spawn, .work 0, .join] = some s ∧
        s.joined = [(⟨"/a.js"⟩, .failed (.lint "/a.js" (.notStarted .notFound)))] :=
    ⟨_, rfl, rfl⟩
  refine ⟨⟨s, false, []⟩, Loop.reachable_of_reachable (reachable_of_perform hm), ?_⟩
  simp [Loop.report, hjoined, collect, BatchReport.sort, Path.sortOn]

/-- Without a disk to find the base on, a session fails. -/
theorem exists_run_idleConfig_eq_error :
    ∃ why, (run strictEngine idleConfig {}).value = .error why := by
  obtain ⟨s, hbase, hvalue⟩ := exists_discover_eq (c := idleConfig)
    (isValid_of_build build_idleDraft).pattern {}
  rcases s.discover_cases {} with ⟨loc, hloc, hdir, -⟩ | ⟨-, problem, hfails⟩
  · have hmissing := isDirectory_idleConfig.2
    rw [← hbase, isDirectory_iff.2 ⟨loc, hloc, hdir⟩] at hmissing
    cases hmissing
  · exact ⟨_, run_eq_error_iff.2 (hvalue.trans hfails)⟩

/-- The sources are reported on, whatever ESLint makes of them. -/
theorem exists_run_sourcesConfig (engine : Engine) :
    ∃ r, (run engine sourcesConfig aliasDisk).value = .ok (some r) := by
  obtain ⟨b, hb⟩ :=
    exists_run engine (annotator sourcesConfig) aliasDisk [⟨"/src/a.js"⟩] limit_sourcesConfig
  exact ⟨b.value, by rw [run_value discover_sourcesConfig, hb]; rfl⟩

/-- An ESLint that is not there stops the run; one that cannot be started fails on every file. -/
theorem failures_by_phase_stranded :
    (∃ d' why, (Eslint.locate startNothing {} idleConfig.projectRoot).value = (d', .error why) ∧
      why.isStartup = true) ∧
    (∃ why, (run strictEngine idleConfig {}).value = .error why ∧ why.isStartup = true) ∧
    (∃ l, Loop.Reachable strandedSetup {} [⟨"/a.js"⟩] l ∧
      (Failure.lint "/a.js" (.notStarted .notFound)).isStartup = false) ∧
    ∃ r, (run (Pipeline.rootEslint.engine startNothing) sourcesConfig aliasDisk).value
        = .ok (some r) ∧ ∀ f ∈ r.report.failures, f.failure.isStartup = false := by
  obtain ⟨-, hlocate, hrun, hloop, -⟩ := failures_by_phase idleDraft (.ok ⟨"/"⟩) startNothing
    Pipeline.rootEslint strictEngine idleConfig {}
  obtain ⟨-, -, -, -, hsession⟩ := failures_by_phase sourcesDraft (.ok ⟨"/"⟩) startNothing
    Pipeline.rootEslint strictEngine sourcesConfig aliasDisk
  have hmissing : (Eslint.locate startNothing {} idleConfig.projectRoot).value = ({}, .error
      (.engineUnavailable Eslint.dependency idleConfig.projectRoot
        (.missing (Eslint.executablePath idleConfig.projectRoot)))) := by
    simp only [Eslint.locate, Disk.isFile_empty]
    rfl
  obtain ⟨why, hwhy⟩ := exists_run_idleConfig_eq_error
  obtain ⟨l, hl, hfailures⟩ := reachable_stranded
  obtain ⟨r, hr⟩ := exists_run_sourcesConfig (Pipeline.rootEslint.engine startNothing)
  refine ⟨⟨_, _, hmissing, hlocate _ _ hmissing⟩, ⟨why, hwhy, hrun _ (.inr hwhy)⟩, ⟨l, hl, ?_⟩,
    r, hr, hsession r hr⟩
  exact hloop _ _ _ l hl _ (by rw [hfailures]; exact List.mem_singleton_self _)

/-- Without a project root and a working directory, the failure is none that stops a run. -/
theorem unknown_directory_is_not_startup :
    Draft.build { baseDir := ⟨"."⟩ } (.error .notFound) = .error (.io .notFound) ∧
      (Failure.io .notFound).isStartup = false :=
  ⟨rfl, rfl⟩

end Session
end BulkSuppress
