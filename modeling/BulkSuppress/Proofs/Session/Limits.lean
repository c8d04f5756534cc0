import BulkSuppress.Proofs.Batch.Accounting
import BulkSuppress.Proofs.Batch.Reachable
import BulkSuppress.Proofs.Config.Accepted
import BulkSuppress.Proofs.Session.Containment

/-
  How many pipelines a session may ask for. A configuration asks for at least one, and no check
  keeps the number down (`build_set_concurrency`). A semaphore, however, holds a limited number of
  permits. Up to that limit the batch of an accepted configuration has a report, which accounts
  for the files; beyond it there is none, whatever the files are (`report_iff_le_permitLimit`).
-/

namespace BulkSuppress.Session
open Batch Discoverer

variable {engine : Engine} {c : Config} {d : Disk} {files : List Path}

/-- Zero is the one wish that a batch does not take as it is. -/
theorem effectiveConcurrency_of_ne_zero {n : Nat} (h : n ≠ 0) : effectiveConcurrency n = n :=
  Nat.max_eq_left (Nat.one_le_iff_ne_zero.2 h)

theorem isSome_run_iff (engine : Engine) (a : Annotator) (n : Nat) (d : Disk)
    (files : List Path) :
    (Batch.run engine a n d files).isSome = true ↔ effectiveConcurrency n ≤ permitLimit := by
  constructor
  · intro h
    obtain ⟨r, hr⟩ := Option.isSome_iff_exists.1 h
    simp only [Batch.run, Option.ite_none_left_eq_some] at hr
    exact Nat.not_lt.1 hr.1
  · intro h
    obtain ⟨r, hr⟩ := exists_run engine a d files h
    rw [hr]
    rfl

/-- The files do not depend on how many of them are processed at a time. -/
theorem discover_with_concurrency (c : Config) (d : Disk) (n : Nat) :
    discover { c with concurrency := n } d = discover c d := rfl

/-- A session ends without a report and without a failure if its batch has no report. -/
theorem run_eq_none_iff :
    (run engine c d).value = .ok none ↔ ∃ files, (discover c d).value = .ok files ∧
      Batch.run engine (annotator c) c.concurrency d files = none := by
  cases h : (discover c d).value with
  | error e => simp [run, Logged.value_bind, h]
  | ok files => simp [run_value h]

/--
A draft that can be used can be used with any number of pipelines but zero. A batch gets as many
permits as its configuration says, and has a report if and only if a semaphore can hold these;
the report then accounts for every file. A session has none if it finds its files and asks for
more permits than that.
-/
theorem report_iff_le_permitLimit {draft : Config.Draft} {wd : Except SystemError Path}
    {c : Config} (h : draft.build wd = .ok c) :
    (∀ n, (draft.set (.concurrency n)).build wd = .ok { c with concurrency := n } ↔ n ≠ 0) ∧
      ∀ (engine : Engine) (d : Disk),
        (∀ files,
          (∀ s, Reachable (setupOf engine (annotator c) c.concurrency) d files s →
            s.permits = c.concurrency) ∧
          ((Batch.run engine (annotator c) c.concurrency d files).isSome = true ↔
            c.concurrency ≤ permitLimit) ∧
          ∀ r, Batch.run engine (annotator c) c.concurrency d files = some r →
            ∃ endings, endings.map Prod.fst = files ∧ Accounts endings r.value.report) ∧
        ((run engine c d).value = .ok none ↔
          (∃ files, (discover c d).value = .ok files) ∧ permitLimit < c.concurrency) := by
  have hconcurrency := effectiveConcurrency_of_ne_zero (Config.isValid_of_build h).concurrency
  have hrun (engine : Engine) (d : Disk) (files : List Path) :
      (Batch.run engine (annotator c) c.concurrency d files).isSome = true ↔
        c.concurrency ≤ permitLimit := by
    rw [isSome_run_iff, hconcurrency]
  refine ⟨Config.build_set_concurrency h, fun engine d => ⟨fun files => ⟨fun s hs => ?_,
    hrun engine d files, fun r hr => ?_⟩, ?_⟩⟩
  · exact (permits_of_reachable hs).trans hconcurrency
  · obtain ⟨s, hs, hdone, hvalue⟩ := exists_isDone_of_run hr
    obtain ⟨hfiles, -, haccounts⟩ := accounts_of_isDone hs hdone
    exact ⟨_, hfiles, hvalue ▸ haccounts⟩
  · rw [run_eq_none_iff, ← exists_and_right]
    refine exists_congr fun files => and_congr_right fun _ => ?_
    rw [← Option.not_isSome_iff_eq_none, hrun, Nat.not_le]

/-! ## At the limit and beyond -/

theorem build_sourcesDraft : sourcesDraft.build (.ok ⟨"/"⟩) = .ok sourcesConfig := by
  decide +kernel

/-- With the default number of pipelines, the sources are reported on. -/
theorem report_iff_le_permitLimit_sources :
    sourcesDraft.build (.ok ⟨"/"⟩) = .ok sourcesConfig ∧
      (Batch.run strictEngine (annotator sourcesConfig) sourcesConfig.concurrency aliasDisk
        [⟨"/src/a.js"⟩]).isSome = true := by
  have h := (report_iff_le_permitLimit build_sourcesDraft).2 strictEngine aliasDisk
  refine ⟨build_sourcesDraft, (h.1 [⟨"/src/a.js"⟩]).2.1.2 ?_⟩
  simp [sourcesConfig, permitLimit]

/-- One more pipeline than a semaphore has permits for is accepted, and there is no report. -/
theorem no_report_beyond_permitLimit :
    ∃ c, (sourcesDraft.set (.concurrency (permitLimit + 1))).build (.ok ⟨"/"⟩) = .ok c ∧
      Batch.run strictEngine (annotator c) c.concurrency aliasDisk [] = none ∧
      (discover c aliasDisk).value = .ok [⟨"/src/a.js"⟩] ∧
      (run strictEngine c aliasDisk).value = .ok none := by
  have hnone (files : List Path) : Batch.run strictEngine (annotator sourcesConfig)
      (permitLimit + 1) aliasDisk files = none := by
    rw [← Option.not_isSome_iff_eq_none, isSome_run_iff,
      effectiveConcurrency_of_ne_zero (Nat.succ_ne_zero _)]
    exact Nat.not_succ_le_self _
  have hfiles : (discover { sourcesConfig with concurrency := permitLimit + 1 } aliasDisk).value
      = .ok [⟨"/src/a.js"⟩] := by
    rw [discover_with_concurrency]
    exact discover_sourcesConfig
  refine ⟨{ sourcesConfig with concurrency := permitLimit + 1 }, ?_, hnone [], hfiles, ?_⟩
  · exact (Config.build_set_concurrency build_sourcesDraft _).2 (Nat.succ_ne_zero _)
  · exact run_eq_none_iff.2 ⟨_, hfiles, hnone _⟩

end BulkSuppress.Session
