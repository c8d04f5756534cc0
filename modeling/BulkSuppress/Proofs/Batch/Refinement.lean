import BulkSuppress.Proofs.Batch.Progress
import BulkSuppress.Proofs.Pipeline.Alone

/-
  A batch comes to what its files come to one by one. Whatever the order of the moves, as long as
  no two paths of the list lead to the same place, a batch that is done has the report and leaves
  the files that handling each file on its own gives (`batch_asAlone`). The report and the bytes
  are told without the moves: `reportOf`, `ending` and `bytesAfter`.

  The invariant is `Tracks`: each pipeline is on its own track, and what no pipeline works on is
  as it was. A step of one pipeline touches what its own path leads to and nothing else, so the
  others stay on their tracks.
-/

namespace BulkSuppress.Batch
open Pipeline

/-! ## Reports, file by file -/

/-- The outcome of a pipeline that came to one. -/
def outcome? : Ending → Option Outcome
  | .finished o => some o
  | .failed _ | .panicked _ => none

/-- The failure of a pipeline, the one with the given number, that came to no outcome. -/
def failure? (number : Nat) (p : Path) : Ending → Option Failure
  | .finished _ => none
  | .failed why => some why
  | .panicked text => some (.pipeline p.text (.panicked number text))

/-- The report of the endings: each file is an outcome or a failure. -/
def reportOf (number : Nat) (endings : List (Path × Ending)) : BatchReport where
  outcomes := endings.filterMap fun j => (outcome? j.2).map (j.1, ·)
  failures := (endings.zipIdx number).filterMap fun j =>
    (failure? j.2 j.1.1 j.1.2).map (FileFailure.mk j.1.1)

theorem collect_eq (number : Nat) (endings : List (Path × Ending)) :
    collect number endings = reportOf number endings := by
  induction endings generalizing number with
  | nil => rfl
  | cons j rest ih =>
    obtain ⟨p, how⟩ := j
    cases how <;> simp [collect, ih, reportOf, outcome?, failure?, List.zipIdx_cons]

/-! ## The invariant -/

/-- No two of the paths lead to the same location. -/
def Apart (d : Disk) (files : List Path) : Prop :=
  files.Pairwise fun p q => ∀ loc, d.resolve p = .ok loc → d.resolve q ≠ .ok loc

theorem apart_of_nodup {d : Disk} {files : List Path} {locs : List Location}
    (h : files.map d.resolve = locs.map .ok) (hn : locs.Nodup) : Apart d files := by
  have hp : (files.map d.resolve).Pairwise (· ≠ ·) := by
    rw [h, List.pairwise_map]
    exact hn.imp fun hne e => hne (Except.ok.inj e)
  exact (List.pairwise_map.1 hp).imp fun hne loc hp hq => hne (hp.trans hq.symm)

theorem Apart.resolve_ne {d : Disk} {xs ys : List Path} {p q : Path}
    (h : Apart d (xs ++ p :: ys)) (hq : q ∈ xs ∨ q ∈ ys) (loc : Location)
    (hp : d.resolve p = .ok loc) : d.resolve q ≠ .ok loc := by
  have h := List.pairwise_append.1 h
  rcases hq with hq | hq
  · intro hloc
    exact h.2.2 q hq p List.mem_cons_self loc hloc hp
  · exact (List.pairwise_cons.1 h.2.1).1 q hq loc hp

/-- Where a batch of the files, started on the disk `d`, has got to. -/
structure Tracks (u : Setup) (d : Disk) (files : List Path) (s : State) : Prop where
  workers : ∀ w ∈ s.workers, OnTrack u.engine u.annotator d w.path s.disk w.stage
  waiting : ∀ p ∈ s.waiting, d.Agree s.disk p
  elsewhere : ∀ loc, (∀ p ∈ files, d.resolve p ≠ .ok loc) →
    s.disk.entryAt? loc = d.entryAt? loc

variable {u : Setup} {e : Engine} {a : Annotator} {d : Disk} {files : List Path} {s t : State}

theorem tracks_start (u : Setup) (d : Disk) (files : List Path) :
    Tracks u d files (start u d files) :=
  ⟨fun _ hw => absurd hw List.not_mem_nil, fun p _ => .refl d p, fun _ _ => rfl⟩

/-- The workers around one of them, which stay when it is replaced. -/
theorem exists_around {ws : List Worker} {i : Nat} {w : Worker} (v : Worker)
    (hw : ws[i]? = some w) : ∃ xs ys, ws = xs ++ w :: ys ∧ ws.set i v = xs ++ v :: ys := by
  obtain ⟨hi, rfl⟩ := List.getElem?_eq_some_iff.1 hw
  obtain ⟨xs, ys, hws, -, hset⟩ : ∃ xs ys, ws = xs ++ ws[i] :: ys ∧ xs.length = i ∧
      ws.set i v = xs ++ v :: ys := List.exists_of_set hi
  exact ⟨xs, ys, hws, hset⟩

/-- A step of one pipeline keeps all of them on their tracks. -/
theorem Tracks.afterWork (h : Tracks u d files s) (hl : u.engine.IsLocal) (ha : Apart d files)
    (hb : Ledger files s) {i : Nat} {w : Worker} (hw : s.workers[i]? = some w) :
    Tracks u d files (s.afterWork u i w) := by
  obtain ⟨xs, ys, hws, hset⟩ := exists_around
    { w with stage := (step u.engine u.annotator w.path s.disk w.stage).value.2 } hw
  have hfiles : files = xs.map Worker.path ++ w.path :: (ys.map Worker.path ++ s.waiting) := by
    rw [← hb.dispatched, hws]
    simp
  have hapart : ∀ q, q ∈ xs.map Worker.path ∨ q ∈ ys.map Worker.path ++ s.waiting →
      ∀ loc, d.resolve w.path = .ok loc → d.resolve q ≠ .ok loc :=
    fun q hq => Apart.resolve_ne (hfiles ▸ ha) hq
  obtain ⟨hon, htouch⟩ := onTrack_step hl (h.workers w (List.mem_of_getElem? hw))
  refine ⟨fun v hv => ?_, fun p hp => ?_, fun loc hloc => ?_⟩
  · simp only [State.afterWork, hset, List.mem_append, List.mem_cons] at hv
    have hold : ∀ v ∈ s.workers, v ∈ xs ∨ v ∈ ys →
        OnTrack u.engine u.annotator d v.path (s.afterWork u i w).disk v.stage := by
      intro v hv hxy
      refine (h.workers v hv).of_touches htouch (hapart v.path ?_)
      rcases hxy with hx | hy
      · exact .inl (List.mem_map_of_mem hx)
      · exact .inr (List.mem_append_left _ (List.mem_map_of_mem hy))
    rcases hv with hx | rfl | hy
    · exact hold v (by simp [hws, hx]) (.inl hx)
    · exact hon
    · exact hold v (by simp [hws, hy]) (.inr hy)
  · have hon : OnTrack u.engine u.annotator d p s.disk .linting := h.waiting p hp
    exact hon.of_touches htouch (hapart p (.inr (List.mem_append_right _ hp)))
  · rw [← h.elsewhere loc hloc]
    rcases htouch with heq | ⟨loc', content, hloc', heq⟩
    · simp only [State.afterWork, heq]
    · have hne : loc ≠ loc' := fun e => hloc w.path (by simp [hfiles]) (e ▸ hloc')
      simp only [State.afterWork, heq, Disk.entryAt?_setContent, if_neg hne]

theorem tracks_apply (hl : u.engine.IsLocal) (ha : Apart d files) {m : Move}
    (h : Ledger files s ∧ Tracks u d files s) (hm : apply u s m = some t) :
    Ledger files t ∧ Tracks u d files t := by
  obtain ⟨hb, h⟩ := h
  refine ⟨ledger_apply hb hm, ?_⟩
  cases m with
  | acquire =>
    obtain ⟨-, -, free, -, rfl⟩ := apply_acquire.1 hm
    exact ⟨h.workers, h.waiting, h.elsewhere⟩
  | spawn =>
    obtain ⟨-, p, rest, hw, rfl⟩ := apply_spawn.1 hm
    refine ⟨fun w hw' => ?_, fun q hq => h.waiting q (hw ▸ List.mem_cons_of_mem p hq),
      h.elsewhere⟩
    rcases List.mem_append.1 hw' with hw' | hw'
    · exact h.workers w hw'
    · rw [List.mem_singleton.1 hw']
      exact h.waiting p (hw ▸ List.mem_cons_self)
  | work i =>
    obtain ⟨w, hw, -, rfl⟩ := apply_work.1 hm
    exact h.afterWork hl ha hb hw
  | join =>
    obtain ⟨-, p, how, -, rfl⟩ := apply_join.1 hm
    exact ⟨h.workers, h.waiting, h.elsewhere⟩

theorem tracks_of_reachable (hl : u.engine.IsLocal) (ha : Apart d files)
    (h : Reachable u d files s) : Tracks u d files s :=
  (h.invariant (P := fun s => Ledger files s ∧ Tracks u d files s)
    ⟨⟨rfl, List.nil_prefix⟩, tracks_start u d files⟩ fun _ _ _ => tracks_apply hl ha).2

/-! ## The result -/

/-- How the pipelines of the files end, each told on its own. -/
def aloneEndings (e : Engine) (a : Annotator) (d : Disk) (files : List Path) :
    List (Path × Ending) :=
  files.map fun p => (p, ending a p (d.readBytes p) (e.verdict d p))

theorem outcomes_reportOf (number : Nat) :
    (reportOf number (aloneEndings e a d files)).outcomes = files.filterMap fun p =>
      (outcome? (ending a p (d.readBytes p) (e.verdict d p))).map (p, ·) := by
  rw [reportOf, aloneEndings, List.filterMap_map]
  rfl

theorem failures_reportOf (number : Nat) :
    (reportOf number (aloneEndings e a d files)).failures = (files.zipIdx number).filterMap fun j =>
      (failure? j.2 j.1 (ending a j.1 (d.readBytes j.1) (e.verdict d j.1))).map
        (FileFailure.mk j.1) := by
  simp only [reportOf, aloneEndings, List.zipIdx_map, List.filterMap_map]
  rfl

/--
The report, and the disk `after` in place of `d`, are what handling each file on its own comes
to: a listed file holds what its own pipeline leaves, all else is as it was.
-/
structure AsAlone (e : Engine) (a : Annotator) (d : Disk) (files : List Path)
    (report : BatchReport) (after : Disk) : Prop where
  report : report = (reportOf 1 (aloneEndings e a d files)).sort
  listed : ∀ p ∈ files, ∀ loc, d.resolve p = .ok loc →
    after.entryAt? loc = (d.entryAt? loc).map (entryAfter a (e.verdict d p))
  unlisted : ∀ loc, (∀ p ∈ files, d.resolve p ≠ .ok loc) →
    after.entryAt? loc = d.entryAt? loc

/-- A file on its own is the only one that can be among the failures. -/
theorem AsAlone.failures_singleton {p : Path} {report : BatchReport} {after : Disk}
    (h : AsAlone e a d [p] report after) :
    report.failures = ((failure? 1 p (ending a p (d.readBytes p) (e.verdict d p))).map
      (FileFailure.mk p)).toList := by
  have hone : (reportOf 1 (aloneEndings e a d [p])).failures
      = ((failure? 1 p (ending a p (d.readBytes p) (e.verdict d p))).map
        (FileFailure.mk p)).toList := by
    rw [failures_reportOf, List.zipIdx_singleton]
    cases hf : failure? 1 p (ending a p (d.readBytes p) (e.verdict d p)) <;> simp [hf]
  rw [h.report, BatchReport.sort, hone]
  cases failure? 1 p (ending a p (d.readBytes p) (e.verdict d p)) <;> simp [Path.sortOn]

/-- A batch that is done has the pipelines of its files, each at the end of its track. -/
theorem onTrack_of_isDone (hl : u.engine.IsLocal) (ha : Apart d files)
    (h : Reachable u d files s) (hd : s.IsDone) : files = s.joined.map Prod.fst ∧
      ∀ j ∈ s.joined, OnTrack u.engine u.annotator d j.1 s.disk (.ended j.2) := by
  have hb := ledger_of_reachable h
  refine ⟨?_, fun j hj => (tracks_of_reachable hl ha h).workers (ended j)
    (hb.workers_of_isDone hd ▸ List.mem_map_of_mem hj)⟩
  rw [← hb.dispatched, hd.1, hb.workers_of_isDone hd, List.append_nil, List.map_map]
  rfl

theorem joined_of_isDone (hl : u.engine.IsLocal) (ha : Apart d files)
    (h : Reachable u d files s) (hd : s.IsDone) :
    s.joined = aloneEndings u.engine u.annotator d files := by
  obtain ⟨hfiles, hon⟩ := onTrack_of_isDone hl ha h hd
  have hmap : s.joined.map (fun j => (j.1, ending u.annotator j.1 (d.readBytes j.1)
      (u.engine.verdict d j.1))) = s.joined.map id :=
    List.map_congr_left fun j hj => Prod.ext rfl (hon j hj).2.1.symm
  rw [List.map_id] at hmap
  rw [hfiles, aloneEndings, List.map_map]
  exact hmap.symm

theorem asAlone_of_isDone (hl : u.engine.IsLocal) (ha : Apart d files)
    (h : Reachable u d files s) (hd : s.IsDone) :
    AsAlone u.engine u.annotator d files s.report s.disk := by
  obtain ⟨hfiles, hon⟩ := onTrack_of_isDone hl ha h hd
  refine ⟨?_, fun p hp loc hloc => ?_, (tracks_of_reachable hl ha h).elsewhere⟩
  · rw [State.report, collect_eq, joined_of_isDone hl ha h hd]
  · rw [hfiles] at hp
    obtain ⟨j, hj, rfl⟩ := List.mem_map.1 hp
    exact (hon j hj).2.2 loc hloc

/--
Every run of a batch ends, and only with everything done. However its moves were ordered, the
report and the files are then what handling each file on its own comes to. So are they when the
batch is run, which it is whenever a semaphore can hold the permits.
-/
theorem batch_asAlone {engine : Engine} {a : Annotator} {concurrency : Nat} {d : Disk}
    {files : List Path} (hl : engine.IsLocal) (ha : Apart d files) :
    (WellFounded fun t s => Step (setupOf engine a concurrency) s t) ∧
      (∀ s, Reachable (setupOf engine a concurrency) d files s →
        (s.IsStuck (setupOf engine a concurrency) ↔ s.IsDone) ∧
        (s.IsDone → AsAlone engine a d files s.report s.disk)) ∧
      (effectiveConcurrency concurrency ≤ permitLimit →
        ∃ r, run engine a concurrency d files = some r ∧
          AsAlone engine a d files r.value.report r.value.disk) := by
  have hpos : 0 < (setupOf engine a concurrency).permits := by
    change 0 < max concurrency 1
    omega
  refine ⟨wellFounded_step _, fun s hs => ⟨isStuck_iff_isDone hs hpos, asAlone_of_isDone hl ha hs⟩,
    fun hlimit => ?_⟩
  obtain ⟨hs, hf⟩ :=
    steps_final (setupOf engine a concurrency) dispatchFirst (start _ d files)
  have hdone := isDone_of_isStuck hs hpos (isStuck_of_dispatchFirst hf)
  refine ⟨_, if_neg (Nat.not_lt.2 hlimit), ?_⟩
  exact asAlone_of_isDone hl ha hs hdone

/-- The files of the sample batch, of which the last is no text, and one that is not listed. -/
def sampleDisk : Disk where
  entries := [(["boom.js"], .file ⟨#[0x31, 0x3b]⟩ false),
    (["broken.js"], .file ⟨#[0x32, 0x3b]⟩ false),
    (["a.js"], .file ⟨#[0x33, 0xff]⟩ false), (["b.js"], .file ⟨#[0x34, 0x3b]⟩ false)]

theorem apart_sampleFiles : Apart sampleDisk sampleFiles := by
  have h : sampleFiles.map sampleDisk.resolve =
      [["boom.js"], ["broken.js"], ["a.js"]].map .ok := by
    simp only [sampleFiles, List.map, Disk.resolve, Disk.locate]
    simp [Disk.walk, Disk.piecesOf, Text.pieces, Disk.startOf, Path.isAbsolute,
      Component.ofPiece?, Disk.kind?, Disk.entryAt?, sampleDisk, Entry.kind, List.lookup_cons]
    exact ⟨rfl, rfl, rfl⟩
  exact apart_of_nodup h (by decide)

/-- The sample batch, with a panic, a failure and a file that is no text. -/
theorem batch_asAlone_sample : sampleEngine.IsLocal ∧ Apart sampleDisk sampleFiles ∧
    ∃ r, run sampleEngine ⟨"x", false⟩ 2 sampleDisk sampleFiles = some r ∧
      AsAlone sampleEngine ⟨"x", false⟩ sampleDisk sampleFiles r.value.report r.value.disk := by
  have hl : sampleEngine.IsLocal :=
    ⟨fun _ _ => rfl, fun _ _ _ _ => by simp only [sampleEngine]⟩
  have hlimit : effectiveConcurrency 2 ≤ permitLimit := by
    simp [effectiveConcurrency, permitLimit]
  exact ⟨hl, apart_sampleFiles, (batch_asAlone hl apart_sampleFiles).2.2 hlimit⟩

end BulkSuppress.Batch
