import BulkSuppress.Proofs.Batch.Frame
import BulkSuppress.Proofs.Discovery.Links
import BulkSuppress.Session

/-
  Which files a session rewrites. The batch of a session changes what discovered paths lead to
  (`exists_mem_of_changed`). A discovered path is selected, and leads to its own entry below the
  base unless it is a link (`isOwnPath_of_mem_discovered`). So whatever is rewritten either lies
  below the base with a selected path of its own, or is the far end of a selected link
  (`rewrites_selected`). The second case is real: a link below the base gets files outside of it
  rewritten (`rewrites_outside_base`).
-/

namespace BulkSuppress

namespace Discoverer

variable {s : Discoverer} {d : Disk} {files : List Path} {loc : Location} {p : Path}

/--
A selected path leads to the file at the location. It is the file's own path, with which the
file lies below the base, or that of a link.
-/
def Reaches (s : Discoverer) (d : Disk) (p : Path) (loc : Location) : Prop :=
  s.selects p = true ∧ d.resolve p = .ok loc ∧
    (∃ bytes x, d.entryAt? loc = some (.file bytes x)) ∧ (s.IsOwnPath d p loc ∨ s.IsLink d p)

/-- Whatever is different on the disk `after` is a file that one of the paths reaches. -/
def ChangesReached (s : Discoverer) (d : Disk) (files : List Path) (after : Disk) : Prop :=
  ∀ loc, after.entryAt? loc ≠ d.entryAt? loc → ∃ p ∈ files, s.Reaches d p loc

theorem reaches_of_mem_discovered (hnames : d.WellNamed) (h : (s.discover d).value = .ok files)
    (hp : p ∈ files) (hloc : d.resolve p = .ok loc) : s.Reaches d p loc := by
  obtain ⟨-, -, -, -, -, -, -, -, hsel⟩ := leads_of_mem_discovered hnames h hp
  obtain ⟨loc', bytes, x, hloc', he⟩ := isFile_of_mem_discovered hnames h hp
  cases hloc.symm.trans hloc'
  refine ⟨hsel, hloc, ⟨bytes, x, he⟩, ?_⟩
  by_cases hlink : s.IsLink d p
  · exact .inr hlink
  · exact .inl (isOwnPath_of_mem_discovered hnames h hp hlink hloc)

end Discoverer

namespace Session
open Batch Discoverer

variable {engine : Engine} {c : Config} {d : Disk} {files : List Path}

/-! ## The parts of a session -/

theorem discover_eq_ok (h : (discover c d).value = .ok files) :
    ∃ made, Discoverer.make c.baseDir c.pattern c.projectRoot
        (Exclusion.IgnoreList.load d c.ignoreFile).value.patterns = .ok made ∧
      (made.value.discover d).value = .ok files := by
  simp only [discover, Logged.value_bind] at h
  cases hmake : Discoverer.make c.baseDir c.pattern c.projectRoot
      (Exclusion.IgnoreList.load d c.ignoreFile).value.patterns with
  | error e =>
    rw [hmake] at h
    cases h
  | ok made =>
    rw [hmake] at h
    exact ⟨made, rfl, h⟩

theorem run_value (h : (discover c d).value = .ok files) :
    (run engine c d).value
      = .ok ((Batch.run engine (annotator c) c.concurrency d files).map Logged.value) := by
  simp only [run, Logged.value_bind, h]
  cases Batch.run engine (annotator c) c.concurrency d files <;> rfl

/-- A session fails with what finding the files fails with, and not otherwise. -/
theorem run_eq_error_iff {why : Failure} :
    (run engine c d).value = .error why ↔ (discover c d).value = .error why := by
  cases h : (discover c d).value with
  | error e => simp [run, Logged.value_bind, h]
  | ok files => simp [run_value h]

/-! ## What a session rewrites -/

/--
However the moves of a session's batch are ordered, and after the session, whatever is different
on the disk is a file that a discovered path reaches: the selected path of its own with which it
lies below the base, or the path of a selected link.
-/
theorem rewrites_selected {engine : Engine} {c : Config} {d : Disk} {files : List Path}
    (hk : engine.KeepsDisk) (hnames : d.WellNamed) (h : (discover c d).value = .ok files) :
    ∃ made, Discoverer.make c.baseDir c.pattern c.projectRoot
        (Exclusion.IgnoreList.load d c.ignoreFile).value.patterns = .ok made ∧
      (made.value.discover d).value = .ok files ∧
      (∀ s, Reachable (setupOf engine (annotator c) c.concurrency) d files s →
        made.value.ChangesReached d files s.disk) ∧
      ∀ r, (run engine c d).value = .ok (some r) → made.value.ChangesReached d files r.disk := by
  obtain ⟨made, hmake, hfiles⟩ := discover_eq_ok h
  have hreach : ∀ s, Reachable (setupOf engine (annotator c) c.concurrency) d files s →
      made.value.ChangesReached d files s.disk := by
    intro s hs loc hne
    obtain ⟨p, hp, hloc⟩ := exists_mem_of_changed hk hs hne
    exact ⟨p, hp, reaches_of_mem_discovered hnames hfiles hp hloc⟩
  refine ⟨made, hmake, hfiles, hreach, fun r hr => ?_⟩
  rw [run_value h] at hr
  obtain ⟨b, hb, rfl⟩ := Option.map_eq_some_iff.1 (Except.ok.inj hr)
  obtain ⟨s, hs, -, hvalue⟩ := exists_isDone_of_run hb
  rw [hvalue]
  exact hreach s hs

/-! ## A session that leaves its base -/

/-- The sources of the project, with little set. -/
def sourcesDraft : Config.Draft := { baseDir := ⟨"src"⟩, remark := some "x" }

def sourcesConfig : Config where
  baseDir := ⟨"src"⟩
  projectRoot := ⟨"/"⟩
  ignoreFile := ⟨"/.eslintignore"⟩
  pattern := "**/*.js"
  concurrency := 10
  remark := "x"
  verbose := false
  dryRun := false

/-- An ignore file that is not there ignores nothing. -/
theorem patterns_load_of_notFound {d : Disk} {p : Path} (h : d.resolve p = .error .notFound) :
    (Exclusion.IgnoreList.load d p).value.patterns = [] := by
  simp [Exclusion.IgnoreList.load, Disk.readText, Disk.readBytes, Disk.readFile, h, Except.map]

/-- Without an ignore file, the files are those of the discoverer that is made with no patterns. -/
theorem discover_of_notFound {c : Config} {d : Disk} {s : Discoverer}
    (hignore : d.resolve c.ignoreFile = .error .notFound)
    (hmake : Discoverer.make c.baseDir c.pattern c.projectRoot [] = .ok ⟨s, []⟩) :
    (discover c d).value = (s.discover d).value := by
  simp only [discover, Logged.value_bind, patterns_load_of_notFound hignore, hmake]

theorem make_sourcesConfig : Discoverer.make sourcesConfig.baseDir sourcesConfig.pattern
    sourcesConfig.projectRoot
    (Exclusion.IgnoreList.load aliasDisk sourcesConfig.ignoreFile).value.patterns
      = .ok ⟨sourcesBelow ⟨"/src"⟩, []⟩ := by
  have hignore : aliasDisk.resolve sourcesConfig.ignoreFile = .error .notFound :=
    resolve_aliasDisk.2.2.2.2
  rw [patterns_load_of_notFound hignore]
  exact make_sourcesBelow ⟨"src"⟩

theorem discover_sourcesConfig :
    (discover sourcesConfig aliasDisk).value = .ok [⟨"/src/a.js"⟩] := by
  simp only [discover, Logged.value_bind, make_sourcesConfig]
  exact discover_sources

/-- The sources with a link, of which nothing but what the link leads to can be rewritten. -/
theorem rewrites_selected_sample :
    strictEngine.KeepsDisk ∧ aliasDisk.WellNamed ∧
      (discover sourcesConfig aliasDisk).value = .ok [⟨"/src/a.js"⟩] ∧
      ∃ made, Discoverer.make sourcesConfig.baseDir sourcesConfig.pattern sourcesConfig.projectRoot
          (Exclusion.IgnoreList.load aliasDisk sourcesConfig.ignoreFile).value.patterns = .ok made ∧
        ∀ r, (run strictEngine sourcesConfig aliasDisk).value = .ok (some r) →
          made.value.ChangesReached aliasDisk [⟨"/src/a.js"⟩] r.disk := by
  have hk := isLocal_strictEngine.keepsDisk
  obtain ⟨made, hmake, -, -, hrun⟩ :=
    rewrites_selected hk wellNamed_aliasDisk discover_sourcesConfig
  exact ⟨hk, wellNamed_aliasDisk, discover_sourcesConfig, made, hmake, hrun⟩

/-- A link among the sources gets a file of the library rewritten. -/
theorem rewrites_outside_base :
    sourcesDraft.build (.ok ⟨"/"⟩) = .ok sourcesConfig ∧ sourcesConfig.dryRun = false ∧
      strictEngine.KeepsDisk ∧ aliasDisk.WellNamed ∧
      Discoverer.make sourcesConfig.baseDir sourcesConfig.pattern sourcesConfig.projectRoot
        (Exclusion.IgnoreList.load aliasDisk sourcesConfig.ignoreFile).value.patterns
          = .ok ⟨sourcesBelow ⟨"/src"⟩, []⟩ ∧
      (∀ p, ¬ (sourcesBelow ⟨"/src"⟩).IsOwnPath aliasDisk p ["lib", "a.js"]) ∧
      aliasDisk.entryAt? ["lib", "a.js"] = some (.file .empty false) ∧
      ∃ r, (run strictEngine sourcesConfig aliasDisk).value = .ok (some r) ∧
        r.disk.entryAt? ["lib", "a.js"]
          = some (.file (Utf8.encode "// x\n/* eslint-disable semi */\n") false) := by
  refine ⟨by decide +kernel, rfl, isLocal_strictEngine.keepsDisk, wellNamed_aliasDisk,
    make_sourcesConfig, ?_, rfl, ?_⟩
  · rintro p ⟨here, ns, hbase, -, -, -, -, hloc⟩
    cases resolve_aliasDisk.2.2.1.symm.trans hbase
    simp at hloc
  · have hlimit : effectiveConcurrency sourcesConfig.concurrency ≤ permitLimit := by
      simp [sourcesConfig, effectiveConcurrency, permitLimit]
    obtain ⟨b, hb⟩ :=
      exists_run strictEngine (annotator sourcesConfig) aliasDisk [⟨"/src/a.js"⟩] hlimit
    obtain ⟨s, hs, hdone, hvalue⟩ := exists_isDone_of_run hb
    have halone : AsAlone strictEngine (annotator sourcesConfig) aliasDisk [⟨"/src/a.js"⟩]
        s.report s.disk :=
      asAlone_of_isDone isLocal_strictEngine (List.pairwise_singleton _ _) hs hdone
    refine ⟨b.value, ?_, ?_⟩
    · rw [run_value discover_sourcesConfig, hb]
      rfl
    · have hbytes : Pipeline.bytesAfter (annotator sourcesConfig) .empty (.rules strictRules)
          = Utf8.encode "// x\n/* eslint-disable semi */\n" := by
        have htext : (Utf8.decode? .empty).isNone = false := by decide
        simp [Pipeline.bytesAfter, annotator, sourcesConfig, RuleSet.isEmpty, strictRules, htext,
          ← build_strictRules]
      rw [hvalue, halone.listed _ List.mem_cons_self _ resolve_aliasDisk.2.2.2.1, ← hbytes]
      rfl

end Session
end BulkSuppress
