import BulkSuppress.Pipeline

/-
  Batches: the pipelines of many files, a bounded number of them at a time. A dispatch loop takes
  a permit for each file in turn and starts its pipeline with it; a pipeline gives its permit back
  when it ends, however it ends. When all are dispatched, the pipelines are waited for in order
  and their endings go into the report. A move is one such step; which of the enabled moves comes
  next is open.
-/

namespace BulkSuppress.Batch

/-- What a batch is run with. -/
structure Setup where
  engine : Engine
  annotator : Annotator
  /-- The number of pipelines that may be live at the same time. -/
  permits : Nat

/-- One dispatched file. -/
structure Worker where
  path : Path
  stage : Pipeline.Stage

/-- A batch under way. -/
structure State where
  disk : Disk
  /-- The files that are not dispatched yet. -/
  waiting : List Path
  /-- The permits that nobody holds. -/
  free : Nat
  /-- The dispatch loop holds a permit for the next file. -/
  held : Bool := false
  /-- The dispatched files in order. -/
  workers : List Worker := []
  /-- The endings that have been waited for, of the first workers in order. -/
  joined : List (Path × Pipeline.Ending) := []
  events : List Event := []

/-- One step of a batch. -/
inductive Move where
  /-- The dispatch loop takes a permit. -/
  | acquire
  /-- The dispatch loop starts the pipeline of the next file with the permit it holds. -/
  | spawn
  /-- The pipeline with the given number takes its next step. -/
  | work (worker : Nat)
  /-- The first pipeline that has not been waited for is found to have ended. -/
  | join
deriving DecidableEq, Repr

/-- What is said when the ending of a pipeline is found. -/
def joinEvents (number : Nat) (p : Path) : Pipeline.Ending → List Event
  | .finished _ => []
  | .failed why => [.warn ("Failed to process " ++ (FileFailure.mk p why).message)]
  | .panicked text =>
    [.warn ("Pipeline for " ++ p.text ++ " panicked: " ++
      (PipelineProblem.panicked number text).message)]

/-- The permit that a step of a pipeline gives back: one when the pipeline ends with it. -/
def returned (after : Pipeline.Stage) : Nat :=
  if after.isLive then 0 else 1

/-- The state after a move, if the move is enabled. -/
def apply (u : Setup) (s : State) : Move → Option State
  | .acquire =>
    if s.held || s.waiting.isEmpty then none
    else match s.free with
      | 0 => none
      | free + 1 => some { s with free, held := true }
  | .spawn =>
    if !s.held then none
    else match s.waiting with
      | [] => none
      | p :: rest =>
        some { s with
          waiting := rest
          held := false
          workers := s.workers ++ [⟨p, .linting⟩] }
  | .work i =>
    match s.workers[i]? with
    | none => none
    | some w =>
      if w.stage.isLive then
        let next := Pipeline.step u.engine u.annotator w.path s.disk w.stage
        some { s with
          disk := next.value.1
          workers := s.workers.set i { w with stage := next.value.2 }
          free := s.free + returned next.value.2
          events := s.events ++ next.events }
      else none
  | .join =>
    if s.waiting.isEmpty then
      match s.workers[s.joined.length]? with
      | some ⟨p, .ended how⟩ =>
        some { s with
          joined := s.joined ++ [(p, how)]
          events := s.events ++ joinEvents (s.joined.length + 1) p how }
      | _ => none
    else none

/-! ## When a move is enabled, and what it does -/

/-- The state after the pipeline `w`, which has the number `i`, took its next step. -/
def State.afterWork (u : Setup) (s : State) (i : Nat) (w : Worker) : State :=
  let next := Pipeline.step u.engine u.annotator w.path s.disk w.stage
  { s with
    disk := next.value.1
    workers := s.workers.set i { w with stage := next.value.2 }
    free := s.free + returned next.value.2
    events := s.events ++ next.events }

theorem apply_acquire {u : Setup} {s t : State} :
    apply u s .acquire = some t ↔
      s.held = false ∧ s.waiting ≠ [] ∧
        ∃ free, s.free = free + 1 ∧ t = { s with free, held := true } := by
  cases hh : s.held with
  | true => simp [apply, hh]
  | false =>
    cases hw : s.waiting with
    | nil => simp [apply, hh, hw]
    | cons p rest =>
      cases hf : s.free with
      | zero => simp [apply, hh, hw, hf]
      | succ free => simp [apply, hh, hw, hf, eq_comm]

theorem apply_spawn {u : Setup} {s t : State} :
    apply u s .spawn = some t ↔
      s.held = true ∧ ∃ p rest, s.waiting = p :: rest ∧
        t = { s with waiting := rest, held := false, workers := s.workers ++ [⟨p, .linting⟩] } := by
  cases hh : s.held with
  | false => simp [apply, hh]
  | true =>
    cases hw : s.waiting with
    | nil => simp [apply, hh, hw]
    | cons p rest =>
      simp only [apply, hh, hw, Bool.not_true, Bool.false_eq_true, if_false]
      constructor
      · intro h
        exact ⟨trivial, p, rest, rfl, (Option.some.inj h).symm⟩
      · rintro ⟨-, p', rest', e, rfl⟩
        cases e; rfl

theorem apply_work {u : Setup} {s t : State} {i : Nat} :
    apply u s (.work i) = some t ↔
      ∃ w, s.workers[i]? = some w ∧ w.stage.isLive = true ∧ t = s.afterWork u i w := by
  cases hw : s.workers[i]? with
  | none => simp [apply, hw]
  | some w =>
    cases hl : w.stage.isLive with
    | false => simp [apply, hw, hl]
    | true =>
      simp only [apply, hw, hl, if_true]
      constructor
      · intro h
        exact ⟨w, rfl, hl, (Option.some.inj h).symm⟩
      · rintro ⟨w', e, -, rfl⟩
        cases e; rfl

theorem apply_join {u : Setup} {s t : State} :
    apply u s .join = some t ↔
      s.waiting = [] ∧ ∃ p how, s.workers[s.joined.length]? = some ⟨p, .ended how⟩ ∧
        t = { s with
          joined := s.joined ++ [(p, how)]
          events := s.events ++ joinEvents (s.joined.length + 1) p how } := by
  cases hw : s.waiting with
  | cons p rest => simp [apply, hw]
  | nil =>
    cases hj : s.workers[s.joined.length]? with
    | none => simp [apply, hw, hj]
    | some w =>
      obtain ⟨p, stage⟩ := w
      cases stage with
      | ended how =>
        simp only [apply, hw, hj, List.isEmpty_nil, if_true]
        constructor
        · intro h
          exact ⟨trivial, p, how, rfl, (Option.some.inj h).symm⟩
        · rintro ⟨-, p', how', e, rfl⟩
          cases e; rfl
      | _ => simp [apply, hw, hj]

/-- The batch of the files before its first move. -/
def start (u : Setup) (d : Disk) (files : List Path) : State :=
  { disk := d, waiting := files, free := u.permits }

/-- The pipelines that have not ended. -/
def State.live (s : State) : Nat :=
  s.workers.countP (·.stage.isLive)

/-- The report of the endings, which are numbered from `number` on. -/
def collect (number : Nat) : List (Path × Pipeline.Ending) → BatchReport
  | [] => {}
  | (p, how) :: rest =>
    let r := collect (number + 1) rest
    match how with
    | .finished o => { r with outcomes := (p, o) :: r.outcomes }
    | .failed why => { r with failures := ⟨p, why⟩ :: r.failures }
    | .panicked text =>
      { r with failures := ⟨p, .pipeline p.text (.panicked number text)⟩ :: r.failures }

/-- The report of a batch that is done. -/
def State.report (s : State) : BatchReport :=
  (collect 1 s.joined).sort

end BulkSuppress.Batch
