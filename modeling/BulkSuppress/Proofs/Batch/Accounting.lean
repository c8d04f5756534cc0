import BulkSuppress.Batch.Dispatch
import BulkSuppress.Proofs.Batch.Refinement
import BulkSuppress.Proofs.Path.Order

/-
  What a report accounts for. The pipelines that have ended are those of the listed files, one
  each and in the order of the list (`ledger_of_reachable`), and each ending makes one entry of
  the report. So every listed file is in the report as often as in the list, whatever the engine
  does and in whatever order the pipelines end (`accounting`). Sorting shows nothing of that order
  either: the entries of equal paths stay as they are in the list.

  The semaphore is never closed, so that no file is left without a pipeline
  (`open_of_reachable`). An entry with a number of rules has at least one, since a pipeline with
  nothing to write ends at once (`isPositive_step`).
-/

namespace BulkSuppress

namespace Pipeline

/-- The rules that a header is for, or was for, are not none. -/
def Stage.IsPositive : Stage → Prop
  | .reading rules | .writing rules _ => rules.size ≠ 0
  | .ended (.finished o) => o.rules? ≠ some 0
  | .linting | .ended (.failed _) | .ended (.panicked _) => True

theorem size_ne_zero {rules : RuleSet} (h : rules.isEmpty = false) : rules.size ≠ 0 := by
  intro h0
  rw [RuleSet.isEmpty, List.eq_nil_of_length_eq_zero h0] at h
  cases h

theorem isPositive_verdictStep (a : Annotator) (p : Path) (v : Verdict) :
    (verdictStep a p v).value.IsPositive := by
  cases v with
  | failed why => trivial
  | panicked text => trivial
  | rules rules =>
    simp only [verdictStep, takeRules, Logged.value_bind]
    cases hr : rules.isEmpty with
    | true => simp [Stage.IsPositive, Outcome.rules?]
    | false => cases a.dryRun <;> simp [Stage.IsPositive, Outcome.rules?, size_ne_zero hr]

/-- No step of a pipeline makes a header for no rules. -/
theorem isPositive_step (e : Engine) (a : Annotator) (p : Path) (d : Disk) {stage : Stage}
    (h : stage.IsPositive) : (step e a p d stage).value.2.IsPositive := by
  cases stage with
  | linting => exact isPositive_verdictStep a p _
  | reading rules =>
    simp only [step, readStep, Logged.value_bind, Logged.value_pure]
    split
    · trivial
    · exact h
  | writing rules content =>
    simp only [step, write, Logged.value_bind, Logged.value_pure]
    split
    · trivial
    · simpa [Stage.IsPositive, Outcome.rules?] using h
  | ended how => exact h

end Pipeline

namespace Batch
open Pipeline

variable {u : Setup} {d : Disk} {files : List Path} {s : State}

theorem isPositive_of_reachable (h : Reachable u d files s) :
    ∀ w ∈ s.workers, w.stage.IsPositive :=
  h.forall_workers (fun _ => trivial) fun d _ hw => isPositive_step _ _ _ d hw

/-! ## Entries of a report -/

/-- Every ending makes one entry, for its own file. -/
theorem perm_reportOf (number : Nat) (endings : List (Path × Ending)) :
    ((reportOf number endings).outcomes.map Prod.fst ++
      (reportOf number endings).failures.map FileFailure.path).Perm (endings.map Prod.fst) := by
  induction endings generalizing number with
  | nil => exact .refl _
  | cons j rest ih =>
    obtain ⟨p, how⟩ := j
    have ih := ih (number + 1)
    rw [← collect_eq] at ih ⊢
    cases how with
    | finished o => exact ih.cons p
    | failed why => exact List.perm_middle.trans (ih.cons p)
    | panicked text => exact List.perm_middle.trans (ih.cons p)

/-- An outcome is either clean or one with a number of rules. -/
theorem length_annotated_add_cleanCount (r : BatchReport) :
    r.annotated.length + r.cleanCount = r.outcomes.length := by
  have h : r.annotated.length = r.outcomes.countP fun o => !(o.2 == .clean) := by
    rw [BatchReport.annotated, List.length_filterMap_eq_countP]
    refine List.countP_congr fun o _ => ?_
    obtain ⟨p, o⟩ := o
    cases o <;> simp [Outcome.rules?]
  rw [h, BatchReport.cleanCount, Nat.add_comm,
    List.length_eq_countP_add_countP fun o : Path × Outcome => o.2 == .clean]
  simp only [decide_not, Bool.decide_eq_true]

/--
The report accounts for the files by how their pipelines ended: each file once, the counts in
step with each other, no header for no rules, and the entries by path. Those of equal paths are
as the list has them.
-/
structure Accounts (endings : List (Path × Ending)) (r : BatchReport) : Prop where
  paths : (r.outcomes.map Prod.fst ++ r.failures.map FileFailure.path).Perm (endings.map Prod.fst)
  total : r.total = endings.length
  counts : r.annotated.length + r.cleanCount + r.failures.length = r.total
  positive : ∀ o ∈ r.outcomes, o.2.rules? ≠ some 0
  outcomes : Path.SortsTo Prod.fst (reportOf 1 endings).outcomes r.outcomes
  failures : Path.SortsTo FileFailure.path (reportOf 1 endings).failures r.failures

theorem accounts_sort {endings : List (Path × Ending)}
    (h : ∀ j ∈ endings, (ended j).stage.IsPositive) :
    Accounts endings (reportOf 1 endings).sort := by
  have ho := Path.sortOn_perm Prod.fst (reportOf 1 endings).outcomes
  have hf := Path.sortOn_perm FileFailure.path (reportOf 1 endings).failures
  have hperm : ((reportOf 1 endings).sort.outcomes.map Prod.fst ++
      (reportOf 1 endings).sort.failures.map FileFailure.path).Perm (endings.map Prod.fst) :=
    ((ho.map Prod.fst).append (hf.map FileFailure.path)).trans (perm_reportOf 1 endings)
  refine ⟨hperm, ?_, ?_, fun o ho' => ?_, Path.sortsTo_sortOn _ _, Path.sortsTo_sortOn _ _⟩
  · simpa [BatchReport.total] using hperm.length_eq
  · rw [length_annotated_add_cleanCount, BatchReport.total]
  · obtain ⟨j, hj, hout⟩ := List.mem_filterMap.1 (ho.mem_iff.1 ho')
    obtain ⟨p, how⟩ := j
    have hpos := h _ hj
    cases how with
    | finished o =>
      simp only [outcome?, Option.map_some, Option.some.injEq] at hout
      rw [← hout]
      exact hpos
    | failed why => simp [outcome?] at hout
    | panicked text => simp [outcome?] at hout

/-- A batch that is done accounts for its files. -/
theorem accounts_of_isDone (h : Reachable u d files s) (hd : s.IsDone) :
    s.joined.map Prod.fst = files ∧ s.workers = s.joined.map ended ∧
      Accounts s.joined s.report := by
  have hb := ledger_of_reachable h
  have hworkers := hb.workers_of_isDone hd
  refine ⟨?_, hworkers, ?_⟩
  · rw [← hb.dispatched, hd.1, hworkers, List.append_nil, List.map_map]
    rfl
  · rw [State.report, collect_eq]
    refine accounts_sort fun j hj => isPositive_of_reachable h _ ?_
    rw [hworkers]
    exact List.mem_map_of_mem hj

/-! ## The semaphore stays open -/

namespace Loop

variable {l k : Loop}

/-- Moves, one after the other, lead from the start of the loop to the state. -/
def Reachable (u : Setup) (d : Disk) (files : List Path) (l : Loop) : Prop :=
  Relation.ReflTransGen (fun l k => ∃ m, l.apply u m = some k) (start u d files) l

/-- No permit was refused, and none will be. -/
def IsOpen (l : Loop) : Prop := l.closed = false ∧ l.refused = []

theorem apply_of_isOpen (h : l.IsOpen) {m : Move} :
    l.apply u m = some k ↔ k.IsOpen ∧ Batch.apply u l.batch m = some k.batch := by
  obtain ⟨s, closed, refused⟩ := l
  obtain ⟨rfl, rfl⟩ : closed = false ∧ refused = [] := h
  obtain ⟨t, closed, refused⟩ := k
  simp only [apply, IsOpen, Bool.false_and, Bool.false_eq_true, if_false, Option.map_eq_some_iff,
    Loop.mk.injEq]
  constructor
  · rintro ⟨r, hr, rfl, rfl, rfl⟩
    exact ⟨⟨rfl, rfl⟩, hr⟩
  · rintro ⟨⟨rfl, rfl⟩, hr⟩
    exact ⟨t, hr, rfl, rfl, rfl⟩

/-- The semaphore stays open, and the batch goes through the states of a batch. -/
theorem open_of_reachable (h : Reachable u d files l) :
    l.IsOpen ∧ Batch.Reachable u d files l.batch := by
  induction h with
  | refl => exact ⟨⟨rfl, rfl⟩, .refl⟩
  | tail _ hm ih =>
    obtain ⟨m, hm⟩ := hm
    obtain ⟨hopen, hstep⟩ := (apply_of_isOpen ih.1).1 hm
    exact ⟨hopen, ih.2.tail ⟨m, hstep⟩⟩

/-- Each state of a batch is one of the loop. -/
theorem reachable_of_reachable (h : Batch.Reachable u d files s) :
    Reachable u d files ⟨s, false, []⟩ := by
  induction h with
  | refl => exact .refl
  | tail _ hm ih =>
    obtain ⟨m, hm⟩ := hm
    exact ih.tail ⟨m, (apply_of_isOpen ⟨rfl, rfl⟩).2 ⟨⟨rfl, rfl⟩, hm⟩⟩

theorem report_of_isOpen (h : l.IsOpen) : l.report = l.batch.report := by
  rw [report, State.report, h.2]
  rfl

end Loop

/--
Wherever the moves of the loop over the files have led, no file was refused a permit, and when no
move is left everything is done. Then each file's pipeline has ended, and the report accounts for
the files by these endings, whatever the engine does. So it does when the batch is run, which it
is whenever a semaphore can hold the permits.
-/
theorem accounting {engine : Engine} {a : Annotator} {concurrency : Nat} {d : Disk}
    {files : List Path} :
    (∀ l, Loop.Reachable (setupOf engine a concurrency) d files l →
      l.closed = false ∧ l.refused = [] ∧
      ((∀ m, l.apply (setupOf engine a concurrency) m = none) ↔ l.batch.IsDone) ∧
      (l.batch.IsDone → ∃ endings, endings.map Prod.fst = files ∧
        l.batch.workers = endings.map ended ∧ Accounts endings l.report)) ∧
    (effectiveConcurrency concurrency ≤ permitLimit →
      ∃ r endings, run engine a concurrency d files = some r ∧ endings.map Prod.fst = files ∧
        Accounts endings r.value.report) := by
  have hpos : 0 < (setupOf engine a concurrency).permits := by
    change 0 < max concurrency 1
    omega
  refine ⟨fun l hl => ?_, fun hlimit => ?_⟩
  · obtain ⟨hopen, hs⟩ := Loop.open_of_reachable hl
    refine ⟨hopen.1, hopen.2, ?_, fun hd => ?_⟩
    · rw [← isStuck_iff_isDone hs hpos]
      refine forall_congr' fun m => ?_
      rw [Loop.apply, hopen.1, Bool.false_and, if_neg Bool.false_ne_true, Option.map_eq_none_iff]
    · rw [Loop.report_of_isOpen hopen]
      exact ⟨_, accounts_of_isDone hs hd⟩
  · obtain ⟨r, hr⟩ := exists_run engine a d files hlimit
    obtain ⟨s, hs, hdone, hvalue⟩ := exists_isDone_of_run hr
    obtain ⟨hfiles, -, haccounts⟩ := accounts_of_isDone hs hdone
    exact ⟨r, _, hr, hfiles, hvalue ▸ haccounts⟩

/-- A list that has a file twice and files that are not there. -/
def repeatedFiles : List Path := [⟨"broken.js"⟩, ⟨"boom.js"⟩, ⟨"broken.js"⟩]

/-- The file that is listed first ends last, after the one that panics and its own duplicate. -/
theorem accounting_sample :
    (∃ s, perform sampleSetup (start sampleSetup {} repeatedFiles)
        [.acquire, .spawn, .acquire, .spawn, .work 1, .acquire, .spawn, .work 2, .work 0, .join,
          .join, .join] = some s ∧
      s.IsDone ∧ ∃ endings, endings.map Prod.fst = repeatedFiles ∧
        s.workers = endings.map ended ∧ Accounts endings (Loop.mk s false []).report) ∧
    effectiveConcurrency 2 ≤ permitLimit ∧
    ∃ r endings, run sampleEngine ⟨"x", false⟩ 2 {} repeatedFiles = some r ∧
      endings.map Prod.fst = repeatedFiles ∧ Accounts endings r.value.report := by
  have hm : perform sampleSetup (start sampleSetup {} repeatedFiles)
      [.acquire, .spawn, .acquire, .spawn, .work 1, .acquire, .spawn, .work 2, .work 0, .join,
        .join, .join] = some _ := rfl
  have hlimit : effectiveConcurrency 2 ≤ permitLimit := by
    simp [effectiveConcurrency, permitLimit]
  have hl := accounting.1 _ (Loop.reachable_of_reachable (reachable_of_perform hm))
  exact ⟨⟨_, hm, ⟨rfl, rfl⟩, hl.2.2.2 ⟨rfl, rfl⟩⟩, hlimit, accounting.2 hlimit⟩

end Batch
end BulkSuppress
