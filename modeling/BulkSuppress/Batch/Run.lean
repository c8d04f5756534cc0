import BulkSuppress.Batch.Basic

/-
  Running a batch. An order of preference among the moves makes a run: of the moves it lists, the
  first enabled one comes next. Each move uses up something of which there is a bounded amount
  (`toGo_apply`), so that every run ends.
-/

namespace BulkSuppress.Batch

/-- The steps that are left of the pipelines. -/
def stepsToGo (ws : List Worker) : Nat :=
  ws.foldr (fun w n => w.stage.toGo + n) 0

@[simp] theorem stepsToGo_nil : stepsToGo [] = 0 := rfl

@[simp] theorem stepsToGo_cons (w : Worker) (ws : List Worker) :
    stepsToGo (w :: ws) = w.stage.toGo + stepsToGo ws := rfl

@[simp] theorem stepsToGo_append (ws vs : List Worker) :
    stepsToGo (ws ++ vs) = stepsToGo ws + stepsToGo vs := by
  induction ws with
  | nil => simp
  | cons w ws ih => simp [ih]; omega

theorem stepsToGo_set (ws : List Worker) (i : Nat) (w v : Worker) (h : ws[i]? = some w) :
    stepsToGo (ws.set i v) + w.stage.toGo = stepsToGo ws + v.stage.toGo := by
  induction ws generalizing i with
  | nil => simp at h
  | cons x xs ih =>
    cases i with
    | zero => simp at h; subst h; simp; omega
    | succ i =>
      rw [List.getElem?_cons_succ] at h
      have := ih i h
      simp only [List.set_cons_succ, stepsToGo_cons]
      omega

/-- A bound on the number of moves that are still to come. -/
def State.toGo (s : State) : Nat :=
  6 * s.waiting.length - (if s.held then 1 else 0) + stepsToGo s.workers +
    (s.workers.length - s.joined.length)

/-- Every move uses up something. -/
theorem toGo_apply {u : Setup} {s t : State} {m : Move} (h : apply u s m = some t) :
    t.toGo < s.toGo := by
  cases m with
  | acquire =>
    obtain ⟨hh, hw, free, -, rfl⟩ := apply_acquire.1 h
    have : s.waiting.length ≠ 0 := by simpa using hw
    simp only [State.toGo, hh]
    simp; omega
  | spawn =>
    obtain ⟨hh, p, rest, hw, rfl⟩ := apply_spawn.1 h
    simp [State.toGo, hw, hh, Pipeline.Stage.toGo]; omega
  | work i =>
    obtain ⟨w, hw, hl, rfl⟩ := apply_work.1 h
    have h1 := stepsToGo_set s.workers i w
      { w with stage := (Pipeline.step u.engine u.annotator w.path s.disk w.stage).value.2 } hw
    have h2 := Pipeline.toGo_step u.engine u.annotator w.path s.disk w.stage hl
    change 6 * s.waiting.length - (if s.held then 1 else 0) + stepsToGo (s.workers.set i _) +
      ((s.workers.set i _).length - s.joined.length) < s.toGo
    rw [List.length_set, State.toGo]
    dsimp only at h1
    omega
  | join =>
    obtain ⟨-, p, how, hw, rfl⟩ := apply_join.1 h
    have : s.joined.length < s.workers.length := (List.getElem?_eq_some_iff.1 hw).1
    simp [State.toGo]; omega

/-- The order in which moves are tried in a state. -/
abbrev Order := State → List Move

/-- The state after the first enabled move of the order, if one is enabled. -/
def next (u : Setup) (order : Order) (s : State) : Option State :=
  (order s).findSome? (apply u s)

theorem toGo_next {u : Setup} {order : Order} {s t : State} (h : next u order s = some t) :
    t.toGo < s.toGo := by
  obtain ⟨m, _, hm⟩ := List.exists_of_findSome?_eq_some h
  exact toGo_apply hm

/-- The states of a run, from `s` to the end. -/
def states (u : Setup) (order : Order) (s : State) : List State :=
  match h : next u order s with
  | none => [s]
  | some t =>
    have := toGo_next h
    s :: states u order t
termination_by s.toGo

/-- The last state of a run. -/
def final (u : Setup) (order : Order) (s : State) : State :=
  (states u order s).getLast?.getD s

/-- The steps of the pipelines, first dispatched first. -/
def workMoves (s : State) : List Move :=
  (List.range s.workers.length).map .work

/--
Dispatch as many pipelines as the permits allow, then wait for those that have ended, before any
takes a step; of the live pipelines, the one that was dispatched first goes on.
-/
def dispatchFirst : Order := fun s => [.acquire, .spawn, .join] ++ workMoves s

/-- The number of pipelines that were live at the same time at most. -/
def peak (u : Setup) (order : Order) (s : State) : Nat :=
  ((states u order s).map State.live).foldl max 0

/-- The number of permits that a semaphore can hold. -/
def permitLimit : Nat := Nat.pow 2 61 - 1

/-- The number of pipelines at a time that a wish for `concurrency` comes to. -/
def effectiveConcurrency (concurrency : Nat) : Nat :=
  max concurrency 1

/-- The report of a batch, with the disk as it leaves it. -/
structure Result where
  report : BatchReport
  disk : Disk

/--
Process the files, at most `concurrency` at a time. Nothing comes back when that is more than a
semaphore can hold.
-/
def run (engine : Engine) (annotator : Annotator) (concurrency : Nat) (d : Disk)
    (files : List Path) : Option (Logged Result) :=
  let permits := effectiveConcurrency concurrency
  if permitLimit < permits then none
  else
    let u : Setup := ⟨engine, annotator, permits⟩
    let s := final u dispatchFirst (start u d files)
    let opening := Event.debug ("Processing " ++ toString files.length ++ " file(s) with " ++
      engine.name ++ " (max concurrent: " ++ toString permits ++ ")")
    some ⟨⟨s.report, s.disk⟩, opening :: s.events⟩

end BulkSuppress.Batch
