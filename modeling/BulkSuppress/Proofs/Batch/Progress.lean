import Mathlib.Order.Lattice
import BulkSuppress.Proofs.Batch.Reachable

/-
  Progress of a batch. A reachable state without an enabled move is one in which everything is
  done (`isStuck_iff_isDone`), so that no mix of failing and panicking pipelines can block a
  batch. Files are not held up either: as long as a permit is not with a live pipeline, the next
  file can be dispatched at once (`exists_dispatch`), and before any engine call has returned this
  goes on until all permits or all files are used up (`exists_filled`).

  That a live pipeline can take its next step is built into the moves. Nothing is said about how
  long an engine call takes.
-/

namespace BulkSuppress.Batch

variable {u : Setup} {d : Disk} {files : List Path} {s t : State}

/-! ## Stuck and done -/

theorem not_isStuck_of_live {i : Nat} {w : Worker} (hw : s.workers[i]? = some w)
    (hl : w.stage.isLive = true) : ¬ s.IsStuck u := by
  intro h
  have hm := (apply_work (u := u)).2 ⟨w, hw, hl, rfl⟩
  rw [h (.work i)] at hm
  cases hm

/-- The next file is dispatched, with a permit that is taken now unless the loop holds one. -/
def Dispatches (u : Setup) (s t : State) : Prop :=
  apply u s .spawn = some t ∨ ∃ r, apply u s .acquire = some r ∧ apply u r .spawn = some t

theorem Dispatches.steps (h : Dispatches u s t) : Steps u s t := by
  rcases h with h | ⟨r, hr, h⟩
  · exact .single ⟨_, h⟩
  · exact .head ⟨_, hr⟩ (.single ⟨_, h⟩)

/-- While fewer pipelines are live than there are permits, the next file can be dispatched. -/
theorem exists_dispatch (h : Reachable u d files s) {p : Path} {rest : List Path}
    (hw : s.waiting = p :: rest) (hl : s.live < u.permits) :
    ∃ t, Dispatches u s t ∧ t.waiting = rest ∧ t.workers = s.workers ++ [⟨p, .linting⟩] := by
  have hp : s.free + s.held.toNat + s.live = u.permits := permits_of_reachable h
  cases hh : s.held with
  | true => exact ⟨_, .inl (apply_spawn.2 ⟨hh, p, rest, hw, rfl⟩), rfl, rfl⟩
  | false =>
    obtain ⟨free, hf⟩ : ∃ free, s.free = free + 1 := by
      rw [hh, Bool.toNat_false] at hp
      exact Nat.exists_eq_add_one.2 (by omega)
    have ha := (apply_acquire (u := u)).2 ⟨hh, by simp [hw], free, hf, rfl⟩
    exact ⟨_, .inr ⟨_, ha, apply_spawn.2 ⟨rfl, p, rest, hw, rfl⟩⟩, rfl, rfl⟩

theorem not_isStuck_of_dispatches (h : Dispatches u s t) : ¬ s.IsStuck u := by
  intro hs
  rcases h with h | ⟨r, h, -⟩
  · rw [hs .spawn] at h; cases h
  · rw [hs .acquire] at h; cases h

/-- In a reachable state there is a next move, unless everything is done. -/
theorem isDone_of_isStuck (h : Reachable u d files s) (hu : 0 < u.permits)
    (hs : s.IsStuck u) : s.IsDone := by
  have hlive : ∀ w ∈ s.workers, w.stage.isLive = false := by
    intro w hw
    obtain ⟨i, hi⟩ := List.mem_iff_getElem?.1 hw
    exact Bool.eq_false_iff.2 fun hl => not_isStuck_of_live hi hl hs
  have hnone : s.live = 0 := List.countP_eq_zero.2 fun w hw => by simp [hlive w hw]
  have hwait : s.waiting = [] := by
    cases hw : s.waiting with
    | nil => rfl
    | cons p rest =>
      obtain ⟨t, ht, -⟩ := exists_dispatch h hw (by omega)
      exact absurd hs (not_isStuck_of_dispatches ht)
  have hj : s.joined.length ≤ s.workers.length := by
    simpa using (ledger_of_reachable h).joined.length_le
  refine ⟨hwait, Nat.le_antisymm hj (Nat.le_of_not_lt fun hlt => ?_)⟩
  -- the first pipeline that was not waited for has ended, so that it can be waited for
  cases hk : s.workers[s.joined.length] with
  | mk p stage =>
    cases stage with
    | ended how =>
      have hm := (apply_join (u := u)).2
        ⟨hwait, p, how, by rw [List.getElem?_eq_getElem hlt, hk], rfl⟩
      rw [hs .join] at hm
      cases hm
    | _ =>
      have := hlive _ (List.getElem_mem hlt)
      rw [hk] at this
      cases this

theorem isStuck_of_isDone (h : Ledger files s) (hd : s.IsDone) : s.IsStuck u := by
  intro m
  rw [Option.eq_none_iff_forall_ne_some]
  intro t hm
  cases m with
  | acquire => exact (apply_acquire.1 hm).2.1 hd.1
  | spawn =>
    obtain ⟨-, p, rest, hw, -⟩ := apply_spawn.1 hm
    rw [hd.1] at hw
    cases hw
  | work i =>
    obtain ⟨w, hw, hl, -⟩ := apply_work.1 hm
    have hi := (List.getElem?_eq_some_iff.1 hw).1
    have := h.joined_length_le hw hl
    have := hd.2
    omega
  | join =>
    obtain ⟨-, p, how, hw, -⟩ := apply_join.1 hm
    have hi := (List.getElem?_eq_some_iff.1 hw).1
    have := hd.2
    omega

theorem isStuck_iff_isDone (h : Reachable u d files s) (hu : 0 < u.permits) :
    s.IsStuck u ↔ s.IsDone :=
  ⟨isDone_of_isStuck h hu, isStuck_of_isDone (ledger_of_reachable h)⟩

/-! ## Before the first engine call returns -/

/-- No engine call has returned. -/
def State.NoneReturned (s : State) : Prop := ∀ w ∈ s.workers, w.stage = .linting

theorem live_of_noneReturned (hn : s.NoneReturned) : s.live = s.workers.length := by
  refine List.countP_eq_length.2 fun w hw => ?_
  rw [hn w hw]
  rfl

theorem Ledger.length_add (h : Ledger files s) :
    s.workers.length + s.waiting.length = files.length := by
  rw [← h.dispatched]
  simp

theorem live_le_of_reachable (h : Reachable u d files s) :
    s.live ≤ min files.length u.permits := by
  have hp : s.free + s.held.toNat + s.live = u.permits := permits_of_reachable h
  have hlen := (ledger_of_reachable h).length_add
  have := live_le_length s
  omega

/-- With no file or no permit left, a batch without a returned engine call is full. -/
theorem live_of_exhausted (h : Reachable u d files s) (hn : s.NoneReturned)
    (he : s.waiting = [] ∨ u.permits ≤ s.live) : s.live = min files.length u.permits := by
  have hle := live_le_of_reachable h
  have hlen := (ledger_of_reachable h).length_add
  have hlive := live_of_noneReturned hn
  rcases he with hw | hp
  · rw [hw, List.length_nil] at hlen
    omega
  · omega

theorem live_of_no_dispatch (h : Reachable u d files s) (hn : s.NoneReturned)
    (hd : ∀ t, ¬ Dispatches u s t) : s.live = min files.length u.permits := by
  refine live_of_exhausted h hn ?_
  cases hw : s.waiting with
  | nil => exact .inl rfl
  | cons p rest =>
    refine .inr (Nat.le_of_not_lt fun hl => ?_)
    obtain ⟨t, ht, -⟩ := exists_dispatch h hw hl
    exact hd t ht

theorem noneReturned_of_dispatches (hn : s.NoneReturned) (h : Dispatches u s t) :
    t.NoneReturned := by
  have spawned : ∀ r : State, r.workers = s.workers → apply u r .spawn = some t →
      t.NoneReturned := by
    intro r hr ht w hw
    obtain ⟨-, p, rest, -, rfl⟩ := apply_spawn.1 ht
    rcases List.mem_append.1 hw with hw | hw
    · exact hn w (hr ▸ hw)
    · rw [List.mem_singleton.1 hw]
  rcases h with h | ⟨r, hr, h⟩
  · exact spawned s rfl h
  · obtain ⟨-, -, free, -, rfl⟩ := apply_acquire.1 hr
    exact spawned { s with free, held := true } rfl h

/-- Before an engine call returns, dispatching alone leads to a batch that is full. -/
theorem exists_filled (h : Reachable u d files s) (hn : s.NoneReturned) :
    ∃ t, Relation.ReflTransGen (Dispatches u) s t ∧ t.NoneReturned ∧
      t.live = min files.length u.permits := by
  induction hw : s.waiting generalizing s with
  | nil => exact ⟨s, .refl, hn, live_of_exhausted h hn (.inl hw)⟩
  | cons p rest ih =>
    by_cases hl : s.live < u.permits
    · obtain ⟨r, hr, hrest, -⟩ := exists_dispatch h hw hl
      obtain ⟨t, ht, hnt, hlive⟩ :=
        ih (h.trans hr.steps) (noneReturned_of_dispatches hn hr) hrest
      exact ⟨t, .head hr ht, hnt, hlive⟩
    · exact ⟨s, .refl, hn, live_of_exhausted h hn (.inr (Nat.le_of_not_lt hl))⟩

/--
A batch that is not done has a next move. While fewer pipelines are live than may be, the next
file can be dispatched. Before an engine call has returned, the pipelines in flight are at most
the smaller of the number of files and the limit, exactly as many once nothing can be
dispatched, and dispatching alone gets them there.
-/
theorem progress {engine : Engine} {a : Annotator} {concurrency : Nat} {d : Disk}
    {files : List Path} {s : State} (h : Reachable (setupOf engine a concurrency) d files s) :
    (¬ s.IsDone → ∃ m t, apply (setupOf engine a concurrency) s m = some t) ∧
      (∀ p rest, s.waiting = p :: rest → s.live < max concurrency 1 →
        ∃ t, Dispatches (setupOf engine a concurrency) s t ∧
          t.waiting = rest ∧ t.workers = s.workers ++ [⟨p, .linting⟩]) ∧
      (s.NoneReturned →
        s.live ≤ min files.length (max concurrency 1) ∧
        ((∀ t, ¬ Dispatches (setupOf engine a concurrency) s t) →
          s.live = min files.length (max concurrency 1)) ∧
        ∃ t, Relation.ReflTransGen (Dispatches (setupOf engine a concurrency)) s t ∧
          t.NoneReturned ∧ t.live = min files.length (max concurrency 1)) := by
  refine ⟨fun hd => ?_, fun p rest => exists_dispatch h, fun hn => ?_⟩
  · have hpos : 0 < max concurrency 1 := by omega
    have hs : ¬ s.IsStuck _ := fun hs => hd (isDone_of_isStuck h hpos hs)
    obtain ⟨m, hm⟩ := not_forall.1 hs
    exact ⟨m, Option.ne_none_iff_exists'.1 hm⟩
  · exact ⟨live_le_of_reachable h, live_of_no_dispatch h hn, exists_filled h hn⟩

/--
After a panic and a failure the third file can be dispatched. From the start, dispatching gets
two files in flight.
-/
theorem progress_after_panic :
    ∃ s, perform sampleSetup (start sampleSetup {} sampleFiles)
        [.acquire, .spawn, .acquire, .spawn, .work 0, .work 1] = some s ∧
      (∃ m t, apply sampleSetup s m = some t) ∧
      (∃ t, Dispatches sampleSetup s t ∧ t.waiting = [] ∧
        t.workers = s.workers ++ [⟨⟨"a.js"⟩, .linting⟩]) ∧
      ∃ t, Relation.ReflTransGen (Dispatches sampleSetup) (start sampleSetup {} sampleFiles) t ∧
        t.NoneReturned ∧ t.live = 2 := by
  have hm : perform sampleSetup (start sampleSetup {} sampleFiles)
      [.acquire, .spawn, .acquire, .spawn, .work 0, .work 1] = some _ := rfl
  have h := progress (reachable_of_perform hm)
  have h0 := progress (s := start sampleSetup {} sampleFiles) .refl
  refine ⟨_, hm, h.1 ?_, h.2.1 _ _ rfl (by decide), ?_⟩
  · intro hd
    cases hd.1
  · obtain ⟨-, -, t, ht, hn, hl⟩ := h0.2.2 fun w hw => absurd hw List.not_mem_nil
    exact ⟨t, ht, hn, hl⟩

/-! ## The run that prefers dispatching -/

theorem next_of_dispatches (h : Dispatches u s t) :
    ∃ r, next u dispatchFirst s = some r ∧
      (apply u s .acquire = some r ∨ apply u s .spawn = some r) := by
  cases ha : apply u s .acquire with
  | some r => exact ⟨r, by simp [next, dispatchFirst, ha], .inl rfl⟩
  | none =>
    rcases h with h | ⟨r, hr, -⟩
    · exact ⟨t, by simp [next, dispatchFirst, ha, h], .inr h⟩
    · rw [ha] at hr
      cases hr

theorem exists_mem_states_filled (h : Reachable u d files s) (hn : s.NoneReturned) :
    ∃ t ∈ states u dispatchFirst s, t.live = min files.length u.permits := by
  induction s using (wellFounded_step u).induction with
  | _ s ih =>
    by_cases hd : ∃ t, Dispatches u s t
    · obtain ⟨t, ht⟩ := hd
      obtain ⟨r, hr, hm⟩ := next_of_dispatches ht
      have hnr : r.NoneReturned := by
        rcases hm with hm | hm
        · obtain ⟨-, -, free, -, rfl⟩ := apply_acquire.1 hm
          exact hn
        · exact noneReturned_of_dispatches hn (.inl hm)
      obtain ⟨t, ht, hlive⟩ := ih r (step_of_next hr) (h.tail (step_of_next hr)) hnr
      refine ⟨t, ?_, hlive⟩
      rw [states_eq, hr]
      exact List.mem_cons_of_mem _ ht
    · refine ⟨s, ?_, live_of_no_dispatch h hn (not_exists.1 hd)⟩
      rw [states_eq]
      exact List.mem_cons_self

/-- The run that prefers dispatching has as many pipelines in flight as it may, and no more. -/
theorem peak_dispatchFirst (u : Setup) (d : Disk) (files : List Path) :
    peak u dispatchFirst (start u d files) = min files.length u.permits := by
  have h : Reachable u d files (start u d files) := .refl
  obtain ⟨t, ht, hlive⟩ := exists_mem_states_filled h fun w hw => absurd hw List.not_mem_nil
  have hmem := List.mem_map_of_mem (f := State.live) ht
  rw [peak, List.foldl_max_eq_max (List.ne_nil_of_mem hmem), Nat.zero_max]
  refine Nat.le_antisymm ((List.max_le_iff _).2 fun n hn => ?_) ?_
  · obtain ⟨t, ht, rfl⟩ := List.mem_map.1 hn
    exact live_le_of_reachable (steps_of_mem_states _ _ _ _ ht)
  · exact Nat.le_trans hlive.ge (List.le_max_of_mem hmem)

/-- A batch is run whenever a semaphore can hold the permits. -/
theorem exists_run (engine : Engine) (a : Annotator) {concurrency : Nat} (d : Disk)
    (files : List Path) (hlimit : effectiveConcurrency concurrency ≤ permitLimit) :
    ∃ r, run engine a concurrency d files = some r :=
  ⟨_, if_neg (Nat.not_lt.2 hlimit)⟩

/-- The report of a run and its disk are those of a reachable state that is done. -/
theorem exists_isDone_of_run {engine : Engine} {a : Annotator} {concurrency : Nat}
    {r : Logged Result} (h : run engine a concurrency d files = some r) :
    ∃ s, Reachable (setupOf engine a concurrency) d files s ∧ s.IsDone ∧
      r.value = ⟨s.report, s.disk⟩ := by
  have hpos : 0 < (setupOf engine a concurrency).permits := by
    change 0 < max concurrency 1
    omega
  obtain ⟨hs, hf⟩ := steps_final (setupOf engine a concurrency) dispatchFirst (start _ d files)
  simp only [run, Option.ite_none_left_eq_some] at h
  cases h.2
  exact ⟨_, hs, isDone_of_isStuck hs hpos (isStuck_of_dispatchFirst hf), rfl⟩

end BulkSuppress.Batch
