import BulkSuppress.Proofs.Batch.Accounting
import BulkSuppress.Proofs.Pipeline.DryRun
import BulkSuppress.Proofs.Session.Containment
import BulkSuppress.Proofs.Session.SingleWriter

/-
  What a dry run foretells of the real one. Both find the same files, and a dry run changes
  nothing on the way (`disk_of_reachable`). Without links the files lie apart, so that either
  report is put together from the files one by one, in the order of their paths. The two agree
  but for blocked files, which the dry run counts as annotated and the real one as failed
  (`dryRun_foretells`). One such file is enough to make a dry run promise what does not come
  (`dryRun_overlooks_failure`).

  The engine has to be local here: where an engine changes files, a real run that goes on from
  what it wrote is another matter.
-/

namespace BulkSuppress

namespace Batch
open Pipeline

variable {u : Setup} {e : Engine} {a : Annotator} {d : Disk} {files : List Path} {s : State}

/-! ## Nothing is changed -/

/-- Wherever its moves have led, a dry run has left the disk as it was. -/
theorem disk_of_reachable (hk : u.engine.KeepsDisk) (hd : u.annotator.dryRun = true)
    (h : Reachable u d files s) : s.disk = d := by
  refine h.disk_eq fun s hs w hw => disk_step hk _ _ _ ?_
  have hkeeps : ∀ w ∈ s.workers, w.stage.KeepsOff :=
    Reachable.forall_workers (fun _ => trivial) (fun d _ => keepsOff_step hd _ d) hs
  exact hkeeps w hw

/-! ## Reports of files in order -/

/-- The report of files in the order of their paths needs no sorting. -/
theorem sort_reportOf (number : Nat) (h : files.Pairwise fun p q => Path.compare p q = .lt) :
    (reportOf number (aloneEndings e a d files)).sort
      = reportOf number (aloneEndings e a d files) := by
  have hle : ∀ {p q : Path}, Path.compare p q = .lt → p.le q = true := fun hlt => by
    rw [Path.le, hlt]
    rfl
  have houtcomes : Path.sortOn Prod.fst (reportOf number (aloneEndings e a d files)).outcomes
      = (reportOf number (aloneEndings e a d files)).outcomes := by
    refine List.mergeSort_of_pairwise ?_
    rw [outcomes_reportOf, List.pairwise_filterMap]
    refine h.imp fun hlt b hb b' hb' => ?_
    obtain ⟨o, -, rfl⟩ := Option.map_eq_some_iff.1 hb
    obtain ⟨o', -, rfl⟩ := Option.map_eq_some_iff.1 hb'
    exact hle hlt
  have hfailures : Path.sortOn FileFailure.path
      (reportOf number (aloneEndings e a d files)).failures
        = (reportOf number (aloneEndings e a d files)).failures := by
    refine List.mergeSort_of_pairwise ?_
    have hindexed : (files.zipIdx number).Pairwise fun i j => Path.compare i.1 j.1 = .lt :=
      List.pairwise_map.1 (by rwa [List.zipIdx_map_fst number files])
    rw [failures_reportOf, List.pairwise_filterMap]
    refine hindexed.imp fun hlt b hb b' hb' => ?_
    obtain ⟨why, -, rfl⟩ := Option.map_eq_some_iff.1 hb
    obtain ⟨why', -, rfl⟩ := Option.map_eq_some_iff.1 hb'
    exact hle hlt
  rw [BatchReport.sort, houtcomes, hfailures]

/-! ## From the dry run to the real one -/

/--
What the report of a dry run says about that of the real run: the same, once carried out, but for
the blocked files, which the dry run announces to get a header and the real run fails to read.
Carrying out changes no count.
-/
structure Foretells (e : Engine) (d : Disk) (files : List Path) (dry real : BatchReport) :
    Prop where
  outcomes : real.outcomes = dry.carriedOut.outcomes.filter fun o => !e.isBlocked d o.1
  failures : dry.failures = real.failures.filter fun f => !e.isBlocked d f.path
  counts : dry.carriedOut.total = dry.total ∧ dry.carriedOut.annotated = dry.annotated ∧
    dry.carriedOut.cleanCount = dry.cleanCount
  blocked : ∀ p ∈ files, e.isBlocked d p = true → ∃ rules why,
    e.verdict d p = .rules rules ∧ d.readText p = .error why ∧
    (p, .wouldAnnotate rules.size) ∈ dry.outcomes ∧ ⟨p, .fileAccess .read p why⟩ ∈ real.failures
  eq_iff : real = dry.carriedOut ↔ ∀ p ∈ files, e.isBlocked d p = false

theorem outcomes_carriedOut (e : Engine) (remark : String) (d : Disk) (files : List Path)
    (number : Nat) : (reportOf number (aloneEndings e ⟨remark, false⟩ d files)).outcomes
      = (reportOf number (aloneEndings e ⟨remark, true⟩ d files)).carriedOut.outcomes.filter
          fun o => !e.isBlocked d o.1 := by
  rw [BatchReport.carriedOut, outcomes_reportOf, outcomes_reportOf, List.map_filterMap,
    List.filter_filterMap]
  refine List.filterMap_congr fun p _ => ?_
  cases hb : e.isBlocked d p with
  | true =>
    obtain ⟨rules, why, -, -, hdry, hreal⟩ := ending_of_isBlocked hb remark
    simp [hdry, hreal, outcome?, hb, Option.filter]
  | false =>
    rw [ending_carriedOut hb]
    cases ending ⟨remark, true⟩ p (d.readBytes p) (e.verdict d p) <;>
      simp [Ending.carriedOut, outcome?, hb, Option.filter]

theorem failures_filter_isBlocked (e : Engine) (remark : String) (d : Disk) (files : List Path)
    (number : Nat) : (reportOf number (aloneEndings e ⟨remark, true⟩ d files)).failures
      = (reportOf number (aloneEndings e ⟨remark, false⟩ d files)).failures.filter
          fun f => !e.isBlocked d f.path := by
  rw [failures_reportOf, failures_reportOf, List.filter_filterMap]
  refine List.filterMap_congr fun j _ => ?_
  obtain ⟨p, i⟩ := j
  cases hb : e.isBlocked d p with
  | true =>
    obtain ⟨rules, why, -, -, hdry, hreal⟩ := ending_of_isBlocked hb remark
    simp [hdry, hreal, failure?, hb, Option.filter]
  | false =>
    rw [ending_carriedOut hb]
    cases ending ⟨remark, true⟩ p (d.readBytes p) (e.verdict d p) <;>
      simp [Ending.carriedOut, failure?, hb, Option.filter]

/-- The report has entries for the files only. -/
theorem paths_reportOf (number : Nat) :
    (∀ o ∈ (reportOf number (aloneEndings e a d files)).outcomes, o.1 ∈ files) ∧
      ∀ f ∈ (reportOf number (aloneEndings e a d files)).failures, f.path ∈ files := by
  have hperm := perm_reportOf number (aloneEndings e a d files)
  have hfiles : (aloneEndings e a d files).map Prod.fst = files := by
    rw [aloneEndings, List.map_map]
    exact List.map_id files
  rw [hfiles] at hperm
  exact ⟨fun o ho => hperm.subset (List.mem_append_left _ (List.mem_map_of_mem ho)),
    fun f hf => hperm.subset (List.mem_append_right _ (List.mem_map_of_mem hf))⟩

theorem foretells_reportOf (e : Engine) (remark : String) (d : Disk) (files : List Path) :
    Foretells e d files (reportOf 1 (aloneEndings e ⟨remark, true⟩ d files))
      (reportOf 1 (aloneEndings e ⟨remark, false⟩ d files)) := by
  have houtcomes := outcomes_carriedOut e remark d files 1
  have hfailures := failures_filter_isBlocked e remark d files 1
  have hblocked : ∀ p ∈ files, e.isBlocked d p = true → ∃ rules why,
      e.verdict d p = .rules rules ∧ d.readText p = .error why ∧
      (p, .wouldAnnotate rules.size)
        ∈ (reportOf 1 (aloneEndings e ⟨remark, true⟩ d files)).outcomes ∧
      ⟨p, .fileAccess .read p why⟩
        ∈ (reportOf 1 (aloneEndings e ⟨remark, false⟩ d files)).failures := by
    intro p hp hb
    obtain ⟨rules, why, hv, hread, hdry, hreal⟩ := ending_of_isBlocked hb remark
    refine ⟨rules, why, hv, hread, ?_, ?_⟩
    · rw [outcomes_reportOf, List.mem_filterMap]
      exact ⟨p, hp, by rw [hdry]; rfl⟩
    · obtain ⟨i, hi⟩ := List.getElem?_of_mem hp
      rw [failures_reportOf, List.mem_filterMap]
      exact ⟨(p, 1 + i), List.mk_add_mem_zipIdx_iff_getElem?.2 hi, by rw [hreal]; rfl⟩
  refine ⟨houtcomes, hfailures, ⟨BatchReport.total_carriedOut _,
    BatchReport.annotated_carriedOut _, BatchReport.cleanCount_carriedOut _⟩, hblocked,
    fun heq p hp => ?_, fun hnone => ?_⟩
  · -- the failure of a blocked file would be among those of the dry run
    rw [← Bool.not_eq_true]
    intro hb
    obtain ⟨-, why, -, -, -, hmem⟩ := hblocked p hp hb
    have hsame : (reportOf 1 (aloneEndings e ⟨remark, false⟩ d files)).failures
        = (reportOf 1 (aloneEndings e ⟨remark, true⟩ d files)).failures :=
      (congrArg BatchReport.failures heq).trans rfl
    rw [hsame, hfailures, List.mem_filter] at hmem
    simp [hb] at hmem
  · have ho : (reportOf 1 (aloneEndings e ⟨remark, false⟩ d files)).outcomes
        = (reportOf 1 (aloneEndings e ⟨remark, true⟩ d files)).carriedOut.outcomes := by
      rw [houtcomes, List.filter_eq_self]
      intro o ho
      obtain ⟨o', ho', rfl⟩ := List.mem_map.1 ho
      simp [hnone o'.1 ((paths_reportOf 1).1 o' ho')]
    have hf : (reportOf 1 (aloneEndings e ⟨remark, true⟩ d files)).failures
        = (reportOf 1 (aloneEndings e ⟨remark, false⟩ d files)).failures := by
      rw [hfailures, List.filter_eq_self]
      exact fun f hf => by simp [hnone f.path ((paths_reportOf 1).2 f hf)]
    exact BatchReport.eq_carriedOut ho hf.symm rfl

/-- The ends of a dry run and of a real run of the same files. -/
theorem foretells_of_isDone (hl : e.IsLocal) (ha : Apart d files)
    (hsorted : files.Pairwise fun p q => Path.compare p q = .lt) {remark : String} {n : Nat}
    {s t : State} (hs : Reachable (setupOf e ⟨remark, true⟩ n) d files s) (hsdone : s.IsDone)
    (ht : Reachable (setupOf e ⟨remark, false⟩ n) d files t) (htdone : t.IsDone) :
    Foretells e d files s.report t.report := by
  have hdry : AsAlone e ⟨remark, true⟩ d files s.report s.disk := asAlone_of_isDone hl ha hs hsdone
  have hreal : AsAlone e ⟨remark, false⟩ d files t.report t.disk :=
    asAlone_of_isDone hl ha ht htdone
  rw [hdry.report, hreal.report, sort_reportOf 1 hsorted, sort_reportOf 1 hsorted]
  exact foretells_reportOf e remark d files

end Batch

namespace Session
open Batch Discoverer

variable {engine : Engine} {c : Config} {d : Disk} {files : List Path}

theorem discover_dryRun (c : Config) (d : Disk) (on : Bool) :
    discover { c with dryRun := on } d = discover c d := rfl

/-- Without links, a session's files are in order and apart. -/
theorem apart_of_linkFree (hlinks : d.LinkFree []) (hnames : d.WellNamed) (hd : d.Distinct)
    (h : (discover c d).value = .ok files) :
    Apart d files ∧ files.Pairwise fun p q => Path.compare p q = .lt := by
  obtain ⟨made, -, hfiles⟩ := discover_eq_ok h
  refine ⟨(apart_iff hnames hd hfiles).2 fun p _ hlink => ?_, pairwise_discovered hnames hd hfiles⟩
  obtain ⟨here, ns, target, -, -, -, hk⟩ := hlink
  exact absurd hk (hlinks (here ++ ns) target)

/-- What a session finds cannot be read only if it is no text. -/
theorem eq_notText_of_readText (hnames : d.WellNamed) (h : (discover c d).value = .ok files)
    {p : Path} (hp : p ∈ files) {why : SystemError} (hread : d.readText p = .error why) :
    why = .notText := by
  obtain ⟨made, -, hfiles⟩ := discover_eq_ok h
  obtain ⟨loc, bytes, x, hloc, he⟩ := isFile_of_mem_discovered hnames hfiles hp
  rw [Disk.readText_of_file hloc he] at hread
  cases ht : Utf8.decode? bytes with
  | none =>
    rw [ht] at hread
    exact (Except.error.inj hread).symm
  | some text =>
    rw [ht] at hread
    cases hread

/-- Both runs of the same files come to an end if a semaphore can hold the permits. -/
theorem exists_foretelling_runs (hl : engine.IsLocal) (hlinks : d.LinkFree [])
    (hnames : d.WellNamed) (hd : d.Distinct) (h : (discover c d).value = .ok files)
    (hlimit : effectiveConcurrency c.concurrency ≤ permitLimit) :
    ∃ dry real, (run engine { c with dryRun := true } d).value = .ok (some dry) ∧
      (run engine { c with dryRun := false } d).value = .ok (some real) ∧
      dry.disk = d ∧ Foretells engine d files dry.report real.report := by
  obtain ⟨ha, hsorted⟩ := apart_of_linkFree hlinks hnames hd h
  have hend (on : Bool) : ∃ r s, (run engine { c with dryRun := on } d).value = .ok (some r) ∧
      Reachable (setupOf engine ⟨c.remark, on⟩ c.concurrency) d files s ∧ s.IsDone ∧
      r = ⟨s.report, s.disk⟩ := by
    obtain ⟨b, hb⟩ := exists_run engine ⟨c.remark, on⟩ d files hlimit
    obtain ⟨s, hs, hdone, hvalue⟩ := exists_isDone_of_run hb
    refine ⟨b.value, s, ?_, hs, hdone, hvalue⟩
    rw [run_value (c := { c with dryRun := on }) h]
    exact congrArg (fun r => Except.ok (r.map Logged.value)) hb
  obtain ⟨dry, s, hdry, hs, hsdone, rfl⟩ := hend true
  obtain ⟨real, t, hreal, ht, htdone, rfl⟩ := hend false
  exact ⟨_, _, hdry, hreal, disk_of_reachable hl.keepsDisk rfl hs,
    foretells_of_isDone hl ha hsorted hs hsdone ht htdone⟩

/--
On a disk without links, with an engine that is a function of path and bytes, the two runs of a
session fail to start for the same reason, or find the same files. Then a dry run leaves the disk
as it is at every moment, and however the moves of both are ordered, its report is that of the
real run, once carried out, exactly if no file is blocked: due a header, but no text. A blocked
file is announced to get its header, and fails; all else is foretold.
-/
theorem dryRun_foretells {engine : Engine} {d : Disk} (c : Config) (hl : engine.IsLocal)
    (hlinks : d.LinkFree []) (hnames : d.WellNamed) (hd : d.Distinct) :
    (∀ why, (run engine { c with dryRun := true } d).value = .error why ↔
      (run engine { c with dryRun := false } d).value = .error why) ∧
    ∀ files, (discover c d).value = .ok files →
      (∀ p ∈ files, ∀ why, d.readText p = .error why → why = .notText) ∧
      (∀ s, Reachable (setupOf engine ⟨c.remark, true⟩ c.concurrency) d files s → s.disk = d) ∧
      (∀ s t, Reachable (setupOf engine ⟨c.remark, true⟩ c.concurrency) d files s → s.IsDone →
        Reachable (setupOf engine ⟨c.remark, false⟩ c.concurrency) d files t → t.IsDone →
        Foretells engine d files s.report t.report) ∧
      (effectiveConcurrency c.concurrency ≤ permitLimit → ∃ dry real,
        (run engine { c with dryRun := true } d).value = .ok (some dry) ∧
        (run engine { c with dryRun := false } d).value = .ok (some real) ∧
        dry.disk = d ∧ Foretells engine d files dry.report real.report) := by
  refine ⟨fun why => ?_, fun files h => ⟨?_, ?_, ?_, ?_⟩⟩
  · rw [run_eq_error_iff, run_eq_error_iff, discover_dryRun c d true, discover_dryRun c d false]
  · exact fun p hp why hread => eq_notText_of_readText hnames h hp hread
  · exact fun s hs => disk_of_reachable hl.keepsDisk rfl hs
  · obtain ⟨ha, hsorted⟩ := apart_of_linkFree hlinks hnames hd h
    exact fun s t hs hsdone ht htdone => foretells_of_isDone hl ha hsorted hs hsdone ht htdone
  · exact exists_foretelling_runs hl hlinks hnames hd h

/-! ## A source file that is no text -/

/-- A source file with a byte that begins no character. -/
def brokenDisk : Disk where
  entries := [(["src"], .directory), (["src", "a.js"], .file ⟨#[0xff]⟩ false)]

theorem linkFree_brokenDisk : brokenDisk.LinkFree [] :=
  Disk.linkFree_of_entries (by simp [brokenDisk, Entry.kind]) []

theorem wellNamed_brokenDisk : brokenDisk.WellNamed := by
  simp only [Disk.WellNamed, brokenDisk]
  decide

theorem distinct_brokenDisk : brokenDisk.Distinct := by
  simp only [Disk.Distinct, brokenDisk]
  decide

theorem resolve_brokenDisk : brokenDisk.resolve ⟨"/src"⟩ = .ok ["src"] ∧
    brokenDisk.resolve ⟨"/src/a.js"⟩ = .ok ["src", "a.js"] ∧
    brokenDisk.resolve ⟨"/.eslintignore"⟩ = .error .notFound := by
  simp only [Disk.resolve, Disk.locate]
  simp [Disk.walk, brokenDisk, Disk.piecesOf, Text.pieces, Disk.startOf, Path.isAbsolute,
    Component.ofPiece?, Disk.kind?, Disk.entryAt?, Entry.kind, List.lookup_cons]
  exact ⟨rfl, rfl, rfl⟩

theorem isFile_brokenDisk :
    brokenDisk.isFile ⟨"/src"⟩ = false ∧ brokenDisk.isFile ⟨"/src/a.js"⟩ = true := by
  simp only [Disk.isFile, Disk.stat?, resolve_brokenDisk]
  exact ⟨rfl, rfl⟩

theorem discover_brokenDisk :
    (discover sourcesConfig brokenDisk).value = .ok [⟨"/src/a.js"⟩] := by
  have hmake : Discoverer.make sourcesConfig.baseDir sourcesConfig.pattern
      sourcesConfig.projectRoot [] = .ok ⟨sourcesBelow ⟨"/src"⟩, []⟩ :=
    make_sourcesBelow ⟨"src"⟩
  have hchildren : brokenDisk.children ["src"] = ["a.js"] := by
    simp [Disk.children, brokenDisk, Disk.childName?]
  rw [discover_of_notFound resolve_brokenDisk.2.2 hmake]
  exact discover_sources_of_children resolve_brokenDisk.1 rfl hchildren rfl (by decide)
    isFile_brokenDisk.1 isFile_brokenDisk.2

theorem limit_sourcesConfig :
    effectiveConcurrency sourcesConfig.concurrency ≤ permitLimit := by
  simp [sourcesConfig, effectiveConcurrency, permitLimit]

/-- Both runs over the file that is no text are as the general statement says. -/
theorem dryRun_foretells_brokenDisk :
    strictEngine.IsLocal ∧ brokenDisk.LinkFree [] ∧ brokenDisk.WellNamed ∧ brokenDisk.Distinct ∧
      (discover sourcesConfig brokenDisk).value = .ok [⟨"/src/a.js"⟩] ∧
      effectiveConcurrency sourcesConfig.concurrency ≤ permitLimit ∧
      ∃ dry real,
        (run strictEngine { sourcesConfig with dryRun := true } brokenDisk).value
          = .ok (some dry) ∧
        (run strictEngine { sourcesConfig with dryRun := false } brokenDisk).value
          = .ok (some real) ∧
        dry.disk = brokenDisk ∧
        Foretells strictEngine brokenDisk [⟨"/src/a.js"⟩] dry.report real.report := by
  have h := dryRun_foretells sourcesConfig isLocal_strictEngine linkFree_brokenDisk
    wellNamed_brokenDisk distinct_brokenDisk
  exact ⟨isLocal_strictEngine, linkFree_brokenDisk, wellNamed_brokenDisk, distinct_brokenDisk,
    discover_brokenDisk, limit_sourcesConfig,
    (h.2 _ discover_brokenDisk).2.2.2 limit_sourcesConfig⟩

/-- The dry run promises a header for the file that is no text, and the real run fails on it. -/
theorem dryRun_overlooks_failure :
    sourcesDraft.build (.ok ⟨"/"⟩) = .ok sourcesConfig ∧
      effectiveConcurrency sourcesConfig.concurrency ≤ permitLimit ∧
      strictEngine.IsLocal ∧ brokenDisk.LinkFree [] ∧ brokenDisk.WellNamed ∧
      brokenDisk.Distinct ∧ ∃ dry real,
        (run strictEngine { sourcesConfig with dryRun := true } brokenDisk).value
          = .ok (some dry) ∧
        (run strictEngine { sourcesConfig with dryRun := false } brokenDisk).value
          = .ok (some real) ∧
        (⟨"/src/a.js"⟩, .wouldAnnotate 1) ∈ dry.report.outcomes ∧
        ⟨⟨"/src/a.js"⟩, .fileAccess .read ⟨"/src/a.js"⟩ .notText⟩ ∈ real.report.failures ∧
        real.report ≠ dry.report.carriedOut := by
  have hread : brokenDisk.readText ⟨"/src/a.js"⟩ = .error .notText := by
    have htext : Utf8.decode? ⟨#[0xff]⟩ = none := by decide
    have he : brokenDisk.entryAt? ["src", "a.js"] = some (.file ⟨#[0xff]⟩ false) := rfl
    simp [Disk.readText, Disk.readBytes, Disk.readFile, resolve_brokenDisk, he, Except.map, htext]
  have hblocked : strictEngine.isBlocked brokenDisk ⟨"/src/a.js"⟩ = true := by
    rw [Engine.isBlocked, hread]
    rfl
  obtain ⟨dry, real, hdry, hreal, -, h⟩ := exists_foretelling_runs isLocal_strictEngine
    linkFree_brokenDisk wellNamed_brokenDisk distinct_brokenDisk discover_brokenDisk
    limit_sourcesConfig
  obtain ⟨rules, why, hv, hwhy, hout, hfail⟩ := h.blocked _ List.mem_cons_self hblocked
  cases hv
  cases hread.symm.trans hwhy
  refine ⟨by decide +kernel, limit_sourcesConfig, isLocal_strictEngine, linkFree_brokenDisk,
    wellNamed_brokenDisk, distinct_brokenDisk, dry, real, hdry, hreal, hout, hfail, fun heq => ?_⟩
  rw [h.eq_iff.1 heq _ List.mem_cons_self] at hblocked
  cases hblocked

end Session
end BulkSuppress
