import BulkSuppress.Proofs.Batch.Frame
import BulkSuppress.Proofs.Path.Order
import BulkSuppress.Proofs.Pipeline.Again
import BulkSuppress.Proofs.Text.Octets

/-
  A batch that is run again on the disk that it left. If no file of a batch is due a header, the
  disk stays as it is at every moment, whatever the order of the moves (`disk_of_no_due`). After a
  batch that is done this is the case, for an engine that is local and honours suppressions. So the
  second batch of the same files changes nothing, finds clean what the first found or made clean,
  and fails where and as the first failed (`second_batch_settles`).

  A panic is reported with the number of the pipeline, and pipelines may be numbered from anywhere
  on in a second batch; `Repeats` leaves these numbers out.
-/

namespace BulkSuppress

/-- The failure without the number of the pipeline that it came up in. -/
def Failure.unnumbered : Failure → Failure
  | .pipeline file (.panicked _ text) => .pipeline file (.panicked 0 text)
  | why => why

/-- The failure of the file without the number of its pipeline. -/
def FileFailure.unnumbered (f : FileFailure) : FileFailure := ⟨f.path, f.failure.unnumbered⟩

namespace Batch
open Pipeline

variable {u : Setup} {e : Engine} {a : Annotator} {remark : String} {d d' : Disk}
  {files : List Path} {s t : State}

/-! ## Where nothing is due -/

/-- A batch in which no file is due a header leaves the disk as it is. -/
theorem disk_of_no_due (hl : u.engine.IsLocal) (ha : Apart d files)
    (hnone : ∀ p ∈ files, ¬ u.engine.IsDue d p) (h : Reachable u d files s) : s.disk = d := by
  refine h.disk_eq fun s hs w hw => ?_
  have hp : w.path ∈ files := by
    rw [← (ledger_of_reachable hs).dispatched]
    exact List.mem_append_left _ (List.mem_map_of_mem hw)
  have hon := (tracks_of_reachable hl ha hs).workers w hw
  cases hstage : w.stage with
  | linting => exact hl.keeps_disk s.disk w.path
  | reading rules => rfl
  | writing rules content =>
    rw [hstage] at hon
    obtain ⟨-, hv, hrules, -, hread⟩ := hon
    exact absurd ⟨rules, content, hv, hrules, hread⟩ (hnone w.path hp)
  | ended how => rfl

/-! ## The report of a second batch -/

/-- The second report has the outcomes of the first, all clean, and its failures. -/
structure Repeats (first second : BatchReport) : Prop where
  outcomes : second.outcomes = first.outcomes.map fun o => (o.1, .clean)
  failures : second.failures.map FileFailure.unnumbered
    = first.failures.map FileFailure.unnumbered

theorem Repeats.sort {first second : BatchReport} (h : Repeats first second) :
    Repeats first.sort second.sort := by
  refine ⟨?_, ?_⟩
  · rw [BatchReport.sort, BatchReport.sort, h.outcomes]
    exact Path.sortOn_map (fun _ => rfl) _
  · have hsort (r : BatchReport) : r.sort.failures.map FileFailure.unnumbered
        = Path.sortOn FileFailure.path (r.failures.map FileFailure.unnumbered) := by
      have hkey (f : FileFailure) : f.unnumbered.path = f.path := rfl
      rw [BatchReport.sort, Path.sortOn_map hkey]
    rw [hsort, hsort, h.failures]

theorem outcome?_again (how : Ending) :
    outcome? how.again = (outcome? how).map fun _ => .clean := by
  cases how <;> rfl

theorem failure?_again (number : Nat) (p : Path) (how : Ending) :
    failure? number p how.again = failure? number p how := by
  cases how <;> rfl

theorem unnumbered_failure? (i j : Nat) (p : Path) (how : Ending) :
    (failure? i p how).map Failure.unnumbered = (failure? j p how).map Failure.unnumbered := by
  cases how <;> rfl

/-- Without their numbers, the failures are told file by file. -/
theorem unnumbered_failures_reportOf (number : Nat) :
    (reportOf number (aloneEndings e a d files)).failures.map FileFailure.unnumbered
      = files.filterMap fun p =>
          ((failure? 0 p (ending a p (d.readBytes p) (e.verdict d p))).map Failure.unnumbered).map
            (FileFailure.mk p) := by
  rw [failures_reportOf, List.map_filterMap]
  conv_rhs => rw [← List.zipIdx_map_fst number files, List.filterMap_map]
  refine List.filterMap_congr fun j _ => ?_
  rw [Function.comp, unnumbered_failure? 0 j.2, Option.map_map, Option.map_map]
  rfl

/-- Files that end again as they ended are reported again. -/
theorem repeats_reportOf (i j : Nat)
    (h : ∀ p ∈ files, ending a p (d'.readBytes p) (e.verdict d' p)
      = (ending a p (d.readBytes p) (e.verdict d p)).again) :
    Repeats (reportOf i (aloneEndings e a d files)) (reportOf j (aloneEndings e a d' files)) := by
  refine ⟨?_, ?_⟩
  · rw [outcomes_reportOf, outcomes_reportOf, List.map_filterMap]
    refine List.filterMap_congr fun p hp => ?_
    rw [h p hp, outcome?_again, Option.map_map, Option.map_map]
    rfl
  · rw [unnumbered_failures_reportOf, unnumbered_failures_reportOf]
    refine List.filterMap_congr fun p hp => ?_
    rw [h p hp, failure?_again]

/-! ## The second batch -/

/-- What a batch that is done leaves, file by file. -/
theorem left_of_isDone (hl : u.engine.IsLocal) (ha : Apart d files) (h : Reachable u d files s)
    (hd : s.IsDone) : ∀ p ∈ files, Left u.engine u.annotator d p s.disk := fun p hp =>
  ⟨(framed_of_reachable hl.keepsDisk h).shape, (asAlone_of_isDone hl ha h hd).listed p hp⟩

theorem Apart.of_sameShape (h : Apart d files) (hs : d.SameShape d') : Apart d' files :=
  h.imp fun hne loc hp hq => hne loc ((hs.resolve_eq _).symm.trans hp)
    ((hs.resolve_eq _).symm.trans hq)

/--
A batch that is run again on the disk that it left, by an engine that is a function of path and
bytes and honours suppressions. At every moment of the second batch, and however the moves of both
are ordered, the disk is as the first left it. The report of the second has the outcomes of the
first, all of them clean, and the failures of the first, but for the numbers of pipelines. Both
batches are run if a semaphore can hold their permits.
-/
theorem second_batch_settles (hl : e.IsLocal) (he : e.Honours remark) (ha : Apart d files)
    (hr : ∀ p ∈ files, d.Retains p) (n m : Nat) :
    (∀ s, Reachable (setupOf e ⟨remark, false⟩ n) d files s → s.IsDone →
      ∀ t, Reachable (setupOf e ⟨remark, false⟩ m) s.disk files t →
        t.disk = s.disk ∧
        (t.IsDone → ∀ number, Repeats s.report (collect number t.joined).sort)) ∧
    (effectiveConcurrency n ≤ permitLimit → effectiveConcurrency m ≤ permitLimit →
      ∃ first second, run e ⟨remark, false⟩ n d files = some first ∧
        run e ⟨remark, false⟩ m first.value.disk files = some second ∧
        second.value.disk = first.value.disk ∧
        Repeats first.value.report second.value.report) := by
  have hsecond : ∀ s, Reachable (setupOf e ⟨remark, false⟩ n) d files s → s.IsDone →
      ∀ t, Reachable (setupOf e ⟨remark, false⟩ m) s.disk files t →
        t.disk = s.disk ∧
        (t.IsDone → ∀ number, Repeats s.report (collect number t.joined).sort) := by
    intro s hs hsdone t ht
    have hleft : ∀ p ∈ files, Left e ⟨remark, false⟩ d p s.disk := left_of_isDone hl ha hs hsdone
    have ha' : Apart s.disk files := ha.of_sameShape (framed_of_reachable hl.keepsDisk hs).shape
    refine ⟨disk_of_no_due hl ha' (fun p hp =>
      not_isDue_of_left hl he (hr p hp) (hleft p hp)) ht, fun htdone number => ?_⟩
    rw [State.report, collect_eq, collect_eq, joined_of_isDone hl ha hs hsdone,
      joined_of_isDone hl ha' ht htdone]
    exact (repeats_reportOf 1 number fun p hp =>
      ending_again hl he (hr p hp) (hleft p hp)).sort
  refine ⟨hsecond, fun hn hm => ?_⟩
  obtain ⟨first, hfirst⟩ := exists_run e ⟨remark, false⟩ d files hn
  obtain ⟨s, hs, hsdone, hsvalue⟩ := exists_isDone_of_run hfirst
  obtain ⟨second, hsecond'⟩ := exists_run e ⟨remark, false⟩ first.value.disk files hm
  obtain ⟨t, ht, htdone, htvalue⟩ := exists_isDone_of_run hsecond'
  rw [hsvalue] at ht
  obtain ⟨hdisk, hrepeats⟩ := hsecond s hs hsdone t ht
  refine ⟨first, second, hfirst, hsecond', ?_, ?_⟩
  · rw [hsvalue, htvalue]
    exact hdisk
  · rw [hsvalue, htvalue]
    exact hrepeats htdone 1

/-! ## A batch with files of every kind -/

/-- The file begins with the header for the rule of the sample engine. -/
def hasHeader (d : Disk) (p : Path) : Bool :=
  match d.readBytes p with
  | .ok bytes => (Utf8.octets (Header.build "x" strictRules)).isPrefixOf bytes.data.toList
  | .error _ => false

/-- The sample engine, with nothing to say about files below its header. -/
def obedientEngine : Engine where
  name := "obedient"
  lint d p := if hasHeader d p then ⟨(d, .rules .empty), []⟩ else sampleEngine.lint d p

theorem isLocal_obedientEngine : obedientEngine.IsLocal := by
  refine ⟨fun d p => ?_, fun d d' p hsame => ?_⟩
  · simp only [obedientEngine]
    split <;> rfl
  · have hheader : hasHeader d p = hasHeader d' p := by rw [hasHeader, hasHeader, hsame]
    simp only [obedientEngine, hheader]
    cases hasHeader d' p <;> rfl

theorem honours_obedientEngine : obedientEngine.Honours "x" := by
  intro d d' p rules content hv hrules hbefore hafter
  have hstrict : rules = strictRules := by
    simp only [Engine.verdict, obedientEngine, sampleEngine] at hv
    split at hv
    · cases hv
      cases hrules
    · split at hv
      · cases hv
      · split at hv <;> cases hv
        rfl
  have hheader : hasHeader d' p = true := by
    rw [hasHeader, hafter, hstrict]
    simp only [List.isPrefixOf_iff_prefix]
    exact Utf8.octets_append _ _ ▸ List.prefix_append _ _
  simp [Engine.verdict, obedientEngine, hheader]

/-- The files of the sample batch, and one that gets a header. -/
def mixedFiles : List Path := sampleFiles ++ [⟨"b.js"⟩]

theorem resolve_mixedFiles : mixedFiles.map sampleDisk.resolve =
    [["boom.js"], ["broken.js"], ["a.js"], ["b.js"]].map .ok := by
  simp only [mixedFiles, sampleFiles, List.cons_append, List.nil_append, List.map, Disk.resolve,
    Disk.locate]
  simp [Disk.walk, Disk.piecesOf, Text.pieces, Disk.startOf, Path.isAbsolute,
    Component.ofPiece?, Disk.kind?, Disk.entryAt?, sampleDisk, Entry.kind, List.lookup_cons]
  exact ⟨rfl, rfl, rfl, rfl⟩

theorem retains_sampleDisk (p : Path) : sampleDisk.Retains p := by
  intro loc _ he
  have hne : loc ≠ [] := by
    rintro rfl
    cases he
  simpa [sampleDisk] using Disk.mem_entries he hne

/-- A panic, a failure, a file that is no text and one that gets a header, all run twice. -/
theorem second_batch_settles_mixed : obedientEngine.IsLocal ∧ obedientEngine.Honours "x" ∧
    Apart sampleDisk mixedFiles ∧ (∀ p ∈ mixedFiles, sampleDisk.Retains p) ∧
    ∃ first second, run obedientEngine ⟨"x", false⟩ 2 sampleDisk mixedFiles = some first ∧
      run obedientEngine ⟨"x", false⟩ 3 first.value.disk mixedFiles = some second ∧
      second.value.disk = first.value.disk ∧
      Repeats first.value.report second.value.report := by
  have ha : Apart sampleDisk mixedFiles := apart_of_nodup resolve_mixedFiles (by decide)
  have hr : ∀ p ∈ mixedFiles, sampleDisk.Retains p := fun p _ => retains_sampleDisk p
  have hlimit : effectiveConcurrency 2 ≤ permitLimit ∧ effectiveConcurrency 3 ≤ permitLimit := by
    simp [effectiveConcurrency, permitLimit]
  exact ⟨isLocal_obedientEngine, honours_obedientEngine, ha, hr,
    (second_batch_settles isLocal_obedientEngine honours_obedientEngine ha hr 2 3).2
      hlimit.1 hlimit.2⟩

end Batch
end BulkSuppress
