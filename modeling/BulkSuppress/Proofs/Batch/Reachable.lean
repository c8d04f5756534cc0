import Mathlib.Logic.Relation
import BulkSuppress.Batch.Run

/-
  The states that a batch can be in: all that its moves lead to, in whatever order they come.
  No batch runs for ever (`wellFounded_step`), and every order of preference gives one of the
  runs that are counted here (`steps_of_mem_states`, `steps_final`). `ledger_of_reachable` keeps
  the books: each file is waiting or has one pipeline, in the order of the list, and the endings
  that were waited for are those of the first pipelines. No move makes or loses a permit, so that
  no more pipelines are live at the same time than there are permits (`permits_balance`).
-/

namespace BulkSuppress.Batch

/-- Some move leads from the one state to the other. -/
def Step (u : Setup) (s t : State) : Prop := ∃ m, apply u s m = some t

/-- Moves, one after the other, lead from the one state to the other. -/
abbrev Steps (u : Setup) : State → State → Prop := Relation.ReflTransGen (Step u)

/-- A state that a batch of the files, started on the disk, can be in. -/
def Reachable (u : Setup) (d : Disk) (files : List Path) (s : State) : Prop :=
  Steps u (start u d files) s

/-- What the files of a run are processed with. -/
def setupOf (engine : Engine) (a : Annotator) (concurrency : Nat) : Setup :=
  ⟨engine, a, effectiveConcurrency concurrency⟩

/-- All files are dispatched and all pipelines have been waited for. -/
def State.IsDone (s : State) : Prop :=
  s.waiting = [] ∧ s.joined.length = s.workers.length

/-- No move is enabled. -/
def State.IsStuck (u : Setup) (s : State) : Prop := ∀ m, apply u s m = none

/-- The state after the moves, if each of them is enabled in its turn. -/
def perform (u : Setup) (s : State) : List Move → Option State
  | [] => some s
  | m :: ms => (apply u s m).bind (perform u · ms)

variable {u : Setup} {d : Disk} {files : List Path} {s t : State}

/-! ## Runs -/

/-- One state leads to another exactly if some list of moves does. -/
theorem steps_iff_perform : Steps u s t ↔ ∃ ms, perform u s ms = some t := by
  constructor
  · intro h
    induction h using Relation.ReflTransGen.head_induction_on with
    | refl => exact ⟨[], rfl⟩
    | head hm _ ih =>
      obtain ⟨m, hm⟩ := hm
      obtain ⟨ms, hms⟩ := ih
      exact ⟨m :: ms, by rw [perform, hm]; exact hms⟩
  · rintro ⟨ms, h⟩
    induction ms generalizing s with
    | nil => rw [Option.some.inj h]
    | cons m ms ih =>
      obtain ⟨r, hm, hr⟩ := Option.bind_eq_some_iff.1 h
      exact .head ⟨m, hm⟩ (ih hr)

theorem reachable_of_perform {ms : List Move} (h : perform u (start u d files) ms = some s) :
    Reachable u d files s :=
  steps_iff_perform.2 ⟨ms, h⟩

/-- A batch makes a bounded number of moves, whichever they are. -/
theorem wellFounded_step (u : Setup) : WellFounded fun t s => Step u s t := by
  refine Subrelation.wf ?_ (measure State.toGo).wf
  rintro t s ⟨m, hm⟩
  exact toGo_apply hm

theorem step_of_next {order : Order} (h : next u order s = some t) : Step u s t := by
  obtain ⟨m, -, hm⟩ := List.exists_of_findSome?_eq_some h
  exact ⟨m, hm⟩

theorem states_eq (u : Setup) (order : Order) (s : State) :
    states u order s = s :: ((next u order s).map (states u order)).getD [] := by
  rw [states]
  split <;> rename_i h <;> simp [h]

/-- Whatever the order of preference, a run goes through reachable states only. -/
theorem steps_of_mem_states (u : Setup) (order : Order) (s t : State)
    (h : t ∈ states u order s) : Steps u s t := by
  induction s using (wellFounded_step u).induction with
  | _ s ih =>
    rw [states_eq] at h
    cases hn : next u order s with
    | none =>
      simp only [hn, Option.map_none, Option.getD_none, List.mem_singleton] at h
      subst h
      exact .refl
    | some r =>
      simp only [hn, Option.map_some, Option.getD_some, List.mem_cons] at h
      rcases h with rfl | h
      · exact .refl
      · exact .head (step_of_next hn) (ih r (step_of_next hn) h)

theorem final_of_next_none {order : Order} (h : next u order s = none) :
    final u order s = s := by
  rw [final, states_eq, h]
  rfl

theorem final_of_next_some {order : Order} (h : next u order s = some t) :
    final u order s = final u order t := by
  rw [final, final, states_eq u order s, states_eq u order t, h, Option.map_some,
    Option.getD_some, states_eq u order t, List.getLast?_cons_cons]
  cases hl : (t :: ((next u order t).map (states u order)).getD []).getLast? with
  | none => simp at hl
  | some r => rfl

theorem steps_final (u : Setup) (order : Order) (s : State) :
    Steps u s (final u order s) ∧ next u order (final u order s) = none := by
  induction s using (wellFounded_step u).induction with
  | _ s ih =>
    cases hn : next u order s with
    | none => rw [final_of_next_none hn]; exact ⟨.refl, hn⟩
    | some t =>
      rw [final_of_next_some hn]
      obtain ⟨hs, hf⟩ := ih t (step_of_next hn)
      exact ⟨.head (step_of_next hn) hs, hf⟩

/-- The preference for dispatching leaves no move out. -/
theorem isStuck_of_dispatchFirst (h : next u dispatchFirst s = none) : s.IsStuck u := by
  intro m
  rw [next, List.findSome?_eq_none_iff] at h
  cases m with
  | work i =>
    by_cases hi : i < s.workers.length
    · exact h _ (by simp [dispatchFirst, workMoves, hi])
    · have : s.workers[i]? = none := by simpa using hi
      simp [apply, this]
  | _ => exact h _ (by simp [dispatchFirst])

/-- What holds at the start and survives each move holds in every reachable state. -/
theorem Reachable.invariant {P : State → Prop} (hstart : P (start u d files))
    (hstep : ∀ s t m, P s → apply u s m = some t → P t) (h : Reachable u d files s) : P s := by
  induction h with
  | refl => exact hstart
  | tail _ hm ih =>
    obtain ⟨m, hm⟩ := hm
    exact hstep _ _ m ih hm

/-- What holds of every pipeline at its beginning, and survives its steps on any disk. -/
theorem Reachable.forall_workers {P : Worker → Prop} (hnew : ∀ p, P ⟨p, .linting⟩)
    (hstep : ∀ d w, P w →
      P { w with stage := (Pipeline.step u.engine u.annotator w.path d w.stage).value.2 })
    (h : Reachable u d files s) : ∀ w ∈ s.workers, P w := by
  refine h.invariant (P := fun s => ∀ w ∈ s.workers, P w)
    (fun w hw => absurd hw List.not_mem_nil) fun s t m hs hm w hw => ?_
  cases m with
  | acquire =>
    obtain ⟨-, -, free, -, rfl⟩ := apply_acquire.1 hm
    exact hs w hw
  | spawn =>
    obtain ⟨-, p, rest, -, rfl⟩ := apply_spawn.1 hm
    rcases List.mem_append.1 hw with hw | hw
    · exact hs w hw
    · rw [List.mem_singleton.1 hw]
      exact hnew p
  | work i =>
    obtain ⟨v, hv, -, rfl⟩ := apply_work.1 hm
    rcases List.mem_or_eq_of_mem_set hw with hw | rfl
    · exact hs w hw
    · exact hstep _ v (hs v (List.mem_of_getElem? hv))
  | join =>
    obtain ⟨-, p, how, -, rfl⟩ := apply_join.1 hm
    exact hs w hw

/-- A batch whose pipelines never change the disk leaves it as it was. -/
theorem Reachable.disk_eq (hstep : ∀ s, Reachable u d files s → ∀ w ∈ s.workers,
      (Pipeline.step u.engine u.annotator w.path s.disk w.stage).value.1 = s.disk)
    (h : Reachable u d files s) : s.disk = d := by
  induction h with
  | refl => rfl
  | @tail s t hs hm ih =>
    obtain ⟨m, hm⟩ := hm
    cases m with
    | acquire =>
      obtain ⟨-, -, free, -, rfl⟩ := apply_acquire.1 hm
      exact ih
    | spawn =>
      obtain ⟨-, p, rest, -, rfl⟩ := apply_spawn.1 hm
      exact ih
    | work i =>
      obtain ⟨w, hw, -, rfl⟩ := apply_work.1 hm
      exact (hstep s hs w (List.mem_of_getElem? hw)).trans ih
    | join =>
      obtain ⟨-, p, how, -, rfl⟩ := apply_join.1 hm
      exact ih

/-! ## The books -/

/-- The pipeline whose ending has been waited for. -/
def ended (j : Path × Pipeline.Ending) : Worker := ⟨j.1, .ended j.2⟩

/-- What a batch keeps track of. -/
structure Ledger (files : List Path) (s : State) : Prop where
  /-- The files with a pipeline come first, in order; the others are waiting. -/
  dispatched : s.workers.map Worker.path ++ s.waiting = files
  /-- The endings that were waited for are those of the first pipelines. -/
  joined : s.joined.map ended <+: s.workers

/-- Changing how far a pipeline is changes no path. -/
theorem map_path_set {ws : List Worker} {i : Nat} {w v : Worker} (hw : ws[i]? = some w)
    (hp : v.path = w.path) : (ws.set i v).map Worker.path = ws.map Worker.path := by
  obtain ⟨hi, rfl⟩ := List.getElem?_eq_some_iff.1 hw
  have hi' : i < (ws.map Worker.path).length := by simpa using hi
  rw [List.map_set, hp, ← List.getElem_map Worker.path (h := hi'), List.set_getElem_self]

theorem prefix_set {ws vs : List Worker} {i : Nat} (v : Worker) (h : vs <+: ws)
    (hi : vs.length ≤ i) : vs <+: ws.set i v := by
  obtain ⟨rest, rfl⟩ := h
  rw [List.set_append_right _ _ hi]
  exact List.prefix_append _ _

/-- A live pipeline has not been waited for. -/
theorem Ledger.joined_length_le (h : Ledger files s) {i : Nat} {w : Worker}
    (hw : s.workers[i]? = some w) (hl : w.stage.isLive = true) : s.joined.length ≤ i := by
  refine Nat.le_of_not_lt fun hi => ?_
  obtain ⟨rest, hr⟩ := h.joined
  have hi' : i < (s.joined.map ended).length := by simpa using hi
  rw [← hr, List.getElem?_append_left hi', List.getElem?_map] at hw
  obtain ⟨j, -, rfl⟩ := Option.map_eq_some_iff.1 hw
  simp [ended, Pipeline.Stage.isLive] at hl

theorem ledger_apply {m : Move} (h : Ledger files s) (hm : apply u s m = some t) :
    Ledger files t := by
  cases m with
  | acquire =>
    obtain ⟨-, -, free, -, rfl⟩ := apply_acquire.1 hm
    exact ⟨h.dispatched, h.joined⟩
  | spawn =>
    obtain ⟨-, p, rest, hw, rfl⟩ := apply_spawn.1 hm
    refine ⟨?_, h.joined.trans (List.prefix_append _ _)⟩
    rw [← h.dispatched, hw]
    simp
  | work i =>
    obtain ⟨w, hw, hl, rfl⟩ := apply_work.1 hm
    have hi : (s.joined.map ended).length ≤ i := by
      rw [List.length_map]
      exact h.joined_length_le hw hl
    refine ⟨?_, prefix_set _ h.joined hi⟩
    rw [← h.dispatched]
    exact congrArg (· ++ s.waiting) (map_path_set hw rfl)
  | join =>
    obtain ⟨-, p, how, hw, rfl⟩ := apply_join.1 hm
    refine ⟨h.dispatched, ?_⟩
    obtain ⟨rest, hr⟩ := h.joined
    rw [← hr, List.getElem?_append_right (by simp)] at hw
    simp only [List.length_map, Nat.sub_self] at hw
    obtain ⟨rest, rfl⟩ : ∃ vs, rest = ⟨p, .ended how⟩ :: vs := by
      cases rest with
      | nil => simp at hw
      | cons w vs => exact ⟨vs, by simpa using hw⟩
    refine ⟨rest, ?_⟩
    rw [← hr]
    simp [ended]

theorem ledger_of_reachable (h : Reachable u d files s) : Ledger files s :=
  h.invariant ⟨rfl, List.nil_prefix⟩ fun _ _ _ => ledger_apply

/-- When a batch is done, each file's pipeline has ended and has been waited for. -/
theorem Ledger.workers_of_isDone (h : Ledger files s) (hd : s.IsDone) :
    s.workers = s.joined.map ended :=
  (h.joined.eq_of_length (by simpa using hd.2)).symm

/-! ## A sample batch -/

/--
An engine that gives up on `boom.js`, fails on `broken.js` and finds one rule violated in every
other file.
-/
def sampleEngine : Engine where
  name := "sample"
  lint d p := ⟨(d,
    if p.text = "boom.js" then .panicked "boom"
    else if p.text = "broken.js" then .failed (.lint p.text .killed)
    else .rules ⟨["semi"], by decide⟩), []⟩

/-- At most two files at a time. -/
def sampleSetup : Setup := setupOf sampleEngine ⟨"x", false⟩ 2

def sampleFiles : List Path := [⟨"boom.js"⟩, ⟨"broken.js"⟩, ⟨"a.js"⟩]

/-! ## Permits -/

/-
  Each permit is free, in the hand of the dispatch loop, or with a live pipeline; a move passes
  permits on and neither makes nor loses one (`permits_apply`), also where a pipeline fails or
  panics. Hence the pipelines that are live at the same time are never more than the permits
  (`permits_balance`), in whatever order the moves come.

  What a semaphore does is built into the moves: it hands out what is free and no more, and a
  pipeline's permit comes back with the step that ends it.
-/

/-- The engine calls that have not returned. -/
def State.calls (s : State) : Nat :=
  s.workers.countP (·.stage matches .linting)

/-- All permits, wherever they are. -/
def State.permits (s : State) : Nat :=
  s.free + s.held.toNat + s.live

theorem calls_le_live (s : State) : s.calls ≤ s.live := by
  refine List.countP_mono_left fun w _ hw => ?_
  obtain ⟨p, stage⟩ := w
  cases stage with
  | linting => rfl
  | _ => simp at hw

theorem live_le_length (s : State) : s.live ≤ s.workers.length := List.countP_le_length

/-- One more pipeline is live when a file is dispatched. -/
theorem countP_spawned (ws : List Worker) (p : Path) :
    (ws ++ [Worker.mk p .linting]).countP (·.stage.isLive) = ws.countP (·.stage.isLive) + 1 := by
  rw [List.countP_append]
  rfl

/-- A live pipeline stays live with its next step, or gives one permit back. -/
theorem countP_worked {ws : List Worker} {i : Nat} {w : Worker} (v : Worker)
    (hw : ws[i]? = some w) (hl : w.stage.isLive = true) :
    returned v.stage + (ws.set i v).countP (·.stage.isLive) = ws.countP (·.stage.isLive) := by
  obtain ⟨hi, rfl⟩ := List.getElem?_eq_some_iff.1 hw
  have hpos : 0 < ws.countP (·.stage.isLive) :=
    List.countP_pos_iff.2 ⟨ws[i], List.getElem_mem hi, hl⟩
  rw [List.countP_set hi, if_pos hl, returned]
  cases v.stage.isLive <;> simp <;> omega

/-- No move makes or loses a permit. -/
theorem permits_apply {m : Move} (h : apply u s m = some t) : t.permits = s.permits := by
  cases m with
  | acquire =>
    obtain ⟨hh, -, free, hf, rfl⟩ := apply_acquire.1 h
    simp only [State.permits, State.live, hh, hf, Bool.toNat_true, Bool.toNat_false]
  | spawn =>
    obtain ⟨hh, p, rest, -, rfl⟩ := apply_spawn.1 h
    simp only [State.permits, State.live, hh, countP_spawned, Bool.toNat_true, Bool.toNat_false]
    omega
  | work i =>
    obtain ⟨w, hw, hl, rfl⟩ := apply_work.1 h
    have hc := countP_worked
      { w with stage := (Pipeline.step u.engine u.annotator w.path s.disk w.stage).value.2 } hw hl
    dsimp only at hc
    simp only [State.permits, State.live, State.afterWork]
    omega
  | join =>
    obtain ⟨-, p, how, -, rfl⟩ := apply_join.1 h
    rfl

theorem permits_of_reachable (h : Reachable u d files s) : s.permits = u.permits :=
  h.invariant (P := fun s => s.permits = u.permits) rfl
    fun _ _ _ hs hm => (permits_apply hm).trans hs

/--
The free permits, the one that the dispatch loop holds and the live pipelines are as many as the
pipelines at a time that were asked for, but at least one. So no more are ever under way.
-/
theorem permits_balance {engine : Engine} {a : Annotator} {concurrency : Nat} {d : Disk}
    {files : List Path} {s : State}
    (h : Reachable (setupOf engine a concurrency) d files s) :
    s.free + s.held.toNat + s.live = max concurrency 1 ∧
      s.live ≤ max concurrency 1 ∧ s.calls ≤ max concurrency 1 := by
  have hp : s.free + s.held.toNat + s.live = max concurrency 1 := permits_of_reachable h
  have hl : s.live ≤ max concurrency 1 := by omega
  exact ⟨hp, hl, Nat.le_trans (calls_le_live s) hl⟩

/-- The permit of a pipeline that panicked is in the hand of the dispatch loop again. -/
theorem permits_balance_after_panic :
    ∃ s, perform sampleSetup (start sampleSetup {} sampleFiles)
        [.acquire, .spawn, .acquire, .spawn, .work 0, .acquire] = some s ∧
      s.free = 0 ∧ s.held = true ∧ s.live = 1 ∧
      s.free + s.held.toNat + s.live = max 2 1 ∧ s.live ≤ max 2 1 ∧ s.calls ≤ max 2 1 := by
  have h : perform sampleSetup (start sampleSetup {} sampleFiles)
      [.acquire, .spawn, .acquire, .spawn, .work 0, .acquire] = some _ := rfl
  exact ⟨_, h, rfl, rfl, rfl, permits_balance (reachable_of_perform h)⟩

end BulkSuppress.Batch
