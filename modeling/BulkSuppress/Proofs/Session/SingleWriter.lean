import Mathlib.Data.List.Pairwise
import BulkSuppress.Proofs.Batch.Frame
import BulkSuppress.Proofs.Discovery.Links

/-
  Whether the pipelines of discovered files keep out of each other's way. A file has one path of
  its own below the base, so that two discovered paths lead to the same file only if one of them
  is a link (`isLink_or_isLink`). Without such links no two pipelines of a run have a file in
  common, and every run comes to what the files come to one by one (`single_writer`). With one,
  a header can be lost: of two pipelines that have both read a file, the one that writes last
  leaves nothing of the other's header (`lost_update`, `update_is_lost`).
-/

namespace BulkSuppress

namespace Batch

variable {u : Setup} {d : Disk} {files : List Path} {s : State}

/-- Pipelines of files that lie apart never have a file in common. -/
theorem apart_workers (ha : Apart d files) (h : Reachable u d files s) :
    Apart d (s.workers.map Worker.path) := by
  have hfiles := (ledger_of_reachable h).dispatched
  exact List.Pairwise.sublist (hfiles ▸ List.sublist_append_left _ _) ha

/-- A pipeline that is about to write its file writes it and reports the header. -/
theorem exists_apply_writing {p : Path} {i : Nat} {rules : RuleSet} {text : String}
    {loc : Location} {bytes : ByteArray} {x : Bool}
    (hw : s.workers[i]? = some ⟨p, .writing rules text⟩) (hloc : s.disk.resolve p = .ok loc)
    (he : s.disk.entryAt? loc = some (.file bytes x)) :
    ∃ t, apply u s (.work i) = some t ∧
      t.disk
        = s.disk.setContent loc (Utf8.encode (Header.build u.annotator.remark rules ++ text)) ∧
      t.workers = s.workers.set i ⟨p, .ended (.finished (.annotated rules.size))⟩ := by
  refine ⟨_, apply_work.2 ⟨_, hw, rfl, rfl⟩, ?_, ?_⟩ <;>
    simp only [State.afterWork, Pipeline.step, Logged.value_bind, Logged.value_pure,
      Pipeline.value_write (Disk.readFile_of_file hloc he)]

/--
Two pipelines that are both about to write the same file: after the one and then the other, both
report a header, and the file holds what the second had read with only the second's header.
-/
theorem lost_update {p q : Path} {i j : Nat} {first second : RuleSet} {text text' : String}
    {loc : Location} {bytes : ByteArray} {x : Bool} (hne : i ≠ j)
    (hi : s.workers[i]? = some ⟨p, .writing first text⟩)
    (hj : s.workers[j]? = some ⟨q, .writing second text'⟩)
    (hp : s.disk.resolve p = .ok loc) (hq : s.disk.resolve q = .ok loc)
    (he : s.disk.entryAt? loc = some (.file bytes x)) :
    ∃ t, perform u s [.work i, .work j] = some t ∧
      t.workers[i]? = some ⟨p, .ended (.finished (.annotated first.size))⟩ ∧
      t.workers[j]? = some ⟨q, .ended (.finished (.annotated second.size))⟩ ∧
      t.disk.entryAt? loc
        = some (.file (Utf8.encode (Header.build u.annotator.remark second ++ text')) x) := by
  obtain ⟨r, hr, hdisk, hworkers⟩ := exists_apply_writing (u := u) hi hp he
  have hjr : r.workers[j]? = some ⟨q, .writing second text'⟩ := by
    rw [hworkers, List.getElem?_set_ne hne, hj]
  have hqr : r.disk.resolve q = .ok loc := by rw [hdisk, Disk.resolve_setContent, hq]
  obtain ⟨written, her⟩ : ∃ written, r.disk.entryAt? loc = some (.file written x) := by
    rw [hdisk, Disk.entryAt?_setContent, if_pos rfl, he]
    exact ⟨_, rfl⟩
  obtain ⟨t, ht, hdisk', hworkers'⟩ := exists_apply_writing (u := u) hjr hqr her
  refine ⟨t, ?_, ?_, ?_, ?_⟩
  · rw [perform, hr, Option.bind_some, perform, ht]
    rfl
  · rw [hworkers', List.getElem?_set_ne hne.symm, hworkers]
    exact List.getElem?_set_self (List.getElem?_eq_some_iff.1 hi).1
  · rw [hworkers']
    exact List.getElem?_set_self (List.getElem?_eq_some_iff.1 hjr).1
  · rw [hdisk', Disk.entryAt?_setContent, if_pos rfl, her]
    rfl

end Batch

namespace Discoverer
open Batch

variable {s : Discoverer} {d : Disk} {files : List Path} {p q : Path}

/-! ## Files apart -/

/-- Of two discovered paths to the same file, one is a link. -/
theorem isLink_or_isLink (hnames : d.WellNamed) (h : (s.discover d).value = .ok files)
    (hp : p ∈ files) (hq : q ∈ files) (hne : p ≠ q) (heq : d.resolve p = d.resolve q) :
    s.IsLink d p ∨ s.IsLink d q := by
  obtain ⟨loc, -, -, hloc, -⟩ := isFile_of_mem_discovered hnames h hp
  by_contra hlinks
  obtain ⟨hlinkp, hlinkq⟩ := not_or.1 hlinks
  exact hne (eq_of_resolve_eq hnames h hp hq hlinkp hlinkq hloc (heq ▸ hloc))

theorem nodup_discovered (hnames : d.WellNamed) (hd : d.Distinct)
    (h : (s.discover d).value = .ok files) : files.Nodup := by
  refine (pairwise_discovered hnames hd h).imp fun {p q} hlt heq => ?_
  rw [heq, Path.compare_self] at hlt
  cases hlt

/-- Discovered paths lead to different files exactly if no link leads where another path does. -/
theorem apart_iff (hnames : d.WellNamed) (hd : d.Distinct)
    (h : (s.discover d).value = .ok files) :
    Apart d files ↔
      ∀ p ∈ files, s.IsLink d p → ∀ q ∈ files, q ≠ p → d.resolve q ≠ d.resolve p := by
  constructor
  · intro hapart p hp _ q hq hne heq
    obtain ⟨loc, -, -, hloc, -⟩ := isFile_of_mem_discovered hnames h hp
    have : Std.Symm fun p q => ∀ loc, d.resolve p = .ok loc → d.resolve q ≠ .ok loc :=
      ⟨fun p q hpq loc hq hp => hpq loc hp hq⟩
    exact List.Pairwise.forall hapart hq hp hne loc (heq.trans hloc) hloc
  · intro hlinks
    refine (nodup_discovered hnames hd h).imp_of_mem fun {p q} hp hq hne loc hlocp hlocq => ?_
    have heq : d.resolve p = d.resolve q := hlocp.trans hlocq.symm
    rcases isLink_or_isLink hnames h hp hq hne heq with hlink | hlink
    · exact hlinks p hp hlink q hq hne.symm heq.symm
    · exact hlinks q hq hlink p hp hne heq

/--
Every discovered path leads to a file, and two of them lead to the same file only if one is a
link. Exactly if no link leads where another discovered path does, they lead to different files.
Then no two pipelines of a run ever have a file in common, and a run that is done has handled each
file as if alone, with no header lost or put twice.
-/
theorem single_writer {s : Discoverer} {d : Disk} {files : List Path} (hnames : d.WellNamed)
    (hd : d.Distinct) (h : (s.discover d).value = .ok files) :
    (∀ p ∈ files, ∃ loc bytes x, d.resolve p = .ok loc ∧
      d.entryAt? loc = some (.file bytes x)) ∧
    (∀ p ∈ files, ∀ q ∈ files, p ≠ q → d.resolve p = d.resolve q →
      s.IsLink d p ∨ s.IsLink d q) ∧
    (Apart d files ↔
      ∀ p ∈ files, s.IsLink d p → ∀ q ∈ files, q ≠ p → d.resolve q ≠ d.resolve p) ∧
    (Apart d files → ∀ (u : Setup) (t : State), Reachable u d files t →
      Apart d (t.workers.map Worker.path) ∧
      (u.engine.IsLocal → t.IsDone → AsAlone u.engine u.annotator d files t.report t.disk)) := by
  refine ⟨fun p hp => isFile_of_mem_discovered hnames h hp,
    fun p hp q hq => isLink_or_isLink hnames h hp hq, apart_iff hnames hd h, fun ha u t ht => ?_⟩
  exact ⟨apart_workers ha ht, fun hl hdone => asAlone_of_isDone hl ha ht hdone⟩

/-- Below the sources there is one path to the file of the library, which is a link. -/
theorem single_writer_sample :
    aliasDisk.WellNamed ∧ aliasDisk.Distinct ∧
      ((sourcesBelow ⟨"/src"⟩).discover aliasDisk).value = .ok [⟨"/src/a.js"⟩] ∧
      Apart aliasDisk [⟨"/src/a.js"⟩] ∧ strictEngine.IsLocal ∧
      ∀ t, Reachable strictSetup aliasDisk [⟨"/src/a.js"⟩] t → t.IsDone →
          AsAlone strictEngine ⟨"x", false⟩ aliasDisk [⟨"/src/a.js"⟩] t.report t.disk := by
  obtain ⟨-, -, -, halone⟩ := single_writer wellNamed_aliasDisk distinct_aliasDisk discover_sources
  have hapart : Apart aliasDisk [⟨"/src/a.js"⟩] := List.pairwise_singleton _ _
  exact ⟨wellNamed_aliasDisk, distinct_aliasDisk, discover_sources, hapart, isLocal_strictEngine,
    fun t ht hdone => (halone hapart _ t ht).2 isLocal_strictEngine hdone⟩

/-! ## A header that is lost -/

/-- Both paths to the file of the library can be linted and read before either is written. -/
theorem exists_both_writing :
    ∃ s, Reachable strictSetup aliasDisk [⟨"/lib/a.js"⟩, ⟨"/src/a.js"⟩] s ∧
      s.disk = aliasDisk ∧ s.workers = [⟨⟨"/lib/a.js"⟩, .writing strictRules ""⟩,
        ⟨⟨"/src/a.js"⟩, .writing strictRules ""⟩] := by
  have hread : aliasDisk.readText ⟨"/lib/a.js"⟩ = .ok "" ∧
      aliasDisk.readText ⟨"/src/a.js"⟩ = .ok "" := by
    have htext : Utf8.decode? .empty = some "" := by decide
    have he : aliasDisk.entryAt? ["lib", "a.js"] = some (.file .empty false) := rfl
    simp [Disk.readText, Disk.readBytes, Disk.readFile, resolve_aliasDisk, he, Except.map, htext]
  obtain ⟨s, hs, h⟩ : ∃ s, perform strictSetup
      (start strictSetup aliasDisk [⟨"/lib/a.js"⟩, ⟨"/src/a.js"⟩])
      [.acquire, .spawn, .acquire, .spawn, .work 0, .work 1, .work 0, .work 1] = some s ∧
      s.disk = aliasDisk ∧ s.workers = [⟨⟨"/lib/a.js"⟩, .writing strictRules ""⟩,
        ⟨⟨"/src/a.js"⟩, .writing strictRules ""⟩] := by
    simp [perform, apply, start, strictSetup, setupOf, effectiveConcurrency, Pipeline.step,
      strictEngine, Pipeline.verdictStep, Pipeline.takeRules, strictRules, RuleSet.isEmpty,
      Pipeline.Stage.isLive, Pipeline.readStep, Pipeline.read, hread]
  exact ⟨s, reachable_of_perform hs, h⟩

/-- A file and a link to it are both discovered, and one of the two headers is lost. -/
theorem update_is_lost :
    make ⟨"."⟩ "**/*.js" ⟨"/"⟩ [] = .ok ⟨sourcesBelow ⟨"/"⟩, []⟩ ∧
      aliasDisk.WellNamed ∧ aliasDisk.Distinct ∧
      ((sourcesBelow ⟨"/"⟩).discover aliasDisk).value = .ok [⟨"/lib/a.js"⟩, ⟨"/src/a.js"⟩] ∧
      aliasDisk.resolve ⟨"/lib/a.js"⟩ = .ok ["lib", "a.js"] ∧
      aliasDisk.resolve ⟨"/src/a.js"⟩ = .ok ["lib", "a.js"] ∧
      ∃ t, Reachable strictSetup aliasDisk [⟨"/lib/a.js"⟩, ⟨"/src/a.js"⟩] t ∧
        t.workers[0]? = some ⟨⟨"/lib/a.js"⟩, .ended (.finished (.annotated 1))⟩ ∧
        t.workers[1]? = some ⟨⟨"/src/a.js"⟩, .ended (.finished (.annotated 1))⟩ ∧
        t.disk.entryAt? ["lib", "a.js"]
          = some (.file (Utf8.encode "// x\n/* eslint-disable semi */\n") false) := by
  refine ⟨make_sourcesBelow ⟨"."⟩, wellNamed_aliasDisk, distinct_aliasDisk, discover_everything,
    resolve_aliasDisk.2.1, resolve_aliasDisk.2.2.2.1, ?_⟩
  obtain ⟨s, hs, hdisk, hworkers⟩ := exists_both_writing
  have he : s.disk.entryAt? ["lib", "a.js"] = some (.file .empty false) := by
    rw [hdisk]
    rfl
  obtain ⟨t, ht, hfirst, hsecond, hfile⟩ :=
    lost_update (u := strictSetup) Nat.zero_ne_one
      (by rw [hworkers]; rfl) (by rw [hworkers]; rfl) (hdisk ▸ resolve_aliasDisk.2.1)
      (hdisk ▸ resolve_aliasDisk.2.2.2.1) he
  refine ⟨t, hs.trans (steps_iff_perform.2 ⟨_, ht⟩), hfirst, hsecond, ?_⟩
  rw [hfile, ← build_strictRules]
  rfl

end Discoverer
end BulkSuppress
