import Mathlib.Data.List.Basic
import BulkSuppress.Proofs.Batch.Frame

/-
  Dry runs, file by file. A dry run ends each pipeline with the verdict: it neither reads nor
  writes (`keepsOff_step`), so that it says nothing about reading. What it announces is what the
  real run does with a file that can be read as text (`ending_carriedOut`). A file that is due a
  header and cannot be read is announced as if it could (`ending_of_isBlocked`).
-/

namespace BulkSuppress

/-- What a real run is to make of a file for which a dry run gives the outcome. -/
def Outcome.carriedOut : Outcome → Outcome
  | .clean => .clean
  | .annotated n | .wouldAnnotate n => .annotated n

theorem Outcome.rules?_carriedOut (o : Outcome) : o.carriedOut.rules? = o.rules? := by
  cases o <;> rfl

/-- The report with everything done that it says would be done. -/
def BatchReport.carriedOut (r : BatchReport) : BatchReport :=
  { r with outcomes := r.outcomes.map fun o => (o.1, o.2.carriedOut) }

namespace BatchReport

variable (r : BatchReport)

theorem eq_carriedOut {dry real : BatchReport} (ho : real.outcomes = dry.carriedOut.outcomes)
    (hf : real.failures = dry.failures) (he : real.elapsed = dry.elapsed) :
    real = dry.carriedOut := by
  obtain ⟨outcomes, failures, elapsed⟩ := real
  rw [show outcomes = _ from ho, show failures = _ from hf, show elapsed = _ from he]
  rfl

theorem total_carriedOut : r.carriedOut.total = r.total := by
  rw [total, total, carriedOut, List.length_map]

theorem annotated_carriedOut : r.carriedOut.annotated = r.annotated := by
  rw [annotated, annotated, carriedOut, List.filterMap_map]
  exact List.filterMap_congr fun o _ => by rw [Function.comp, Outcome.rules?_carriedOut]

theorem cleanCount_carriedOut : r.carriedOut.cleanCount = r.cleanCount := by
  rw [cleanCount, cleanCount, carriedOut, List.countP_map]
  refine List.countP_congr fun o _ => ?_
  obtain ⟨p, o⟩ := o
  cases o <;> rfl

end BatchReport

/-- The file is due a header, but cannot be read as text. -/
def Engine.isBlocked (e : Engine) (d : Disk) (p : Path) : Bool :=
  match e.verdict d p with
  | .rules rules => !rules.isEmpty && (d.readText p).toOption.isNone
  | .failed _ | .panicked _ => false

namespace Pipeline

variable {e : Engine} {a : Annotator} {d : Disk} {p : Path}

/-- What a real run is to make of a file whose pipeline ends like this in a dry run. -/
def Ending.carriedOut : Ending → Ending
  | .finished o => .finished o.carriedOut
  | .failed why => .failed why
  | .panicked text => .panicked text

/-! ## What a dry run announces -/

theorem isSome_decode?_of_readText {content : String} (h : d.readText p = .ok content) :
    ∃ bytes, d.readBytes p = .ok bytes ∧ (Utf8.decode? bytes).isSome = true := by
  obtain ⟨-, bytes, -, hb, ht⟩ := readText_eq_ok h
  exact ⟨bytes, hb, by rw [ht]; rfl⟩

/-- Unless the file is blocked, its pipeline does what the dry run announces. -/
theorem ending_carriedOut (h : e.isBlocked d p = false) (remark : String) :
    ending ⟨remark, false⟩ p (d.readBytes p) (e.verdict d p)
      = (ending ⟨remark, true⟩ p (d.readBytes p) (e.verdict d p)).carriedOut := by
  unfold Engine.isBlocked at h
  cases hv : e.verdict d p with
  | failed why => rfl
  | panicked text => rfl
  | rules rules =>
    simp only [hv] at h
    cases hr : rules.isEmpty with
    | true => simp [ending, hr, Ending.carriedOut, Outcome.carriedOut]
    | false =>
      cases ht : d.readText p with
      | error why => simp [hr, ht, Except.toOption] at h
      | ok content =>
        obtain ⟨bytes, hb, htext⟩ := isSome_decode?_of_readText ht
        simp [ending, hr, hb, htext, Ending.carriedOut, Outcome.carriedOut]

/-- A blocked file is announced to get its header, and fails. -/
theorem ending_of_isBlocked (h : e.isBlocked d p = true) (remark : String) :
    ∃ rules why, e.verdict d p = .rules rules ∧ d.readText p = .error why ∧
      ending ⟨remark, true⟩ p (d.readBytes p) (e.verdict d p)
        = .finished (.wouldAnnotate rules.size) ∧
      ending ⟨remark, false⟩ p (d.readBytes p) (e.verdict d p)
        = .failed (.fileAccess .read p why) := by
  unfold Engine.isBlocked at h
  cases hv : e.verdict d p with
  | failed why => simp [hv] at h
  | panicked text => simp [hv] at h
  | rules rules =>
    simp only [hv, Bool.and_eq_true, Bool.not_eq_true'] at h
    obtain ⟨hr, hnone⟩ := h
    cases ht : d.readText p with
    | ok content => simp [ht, Except.toOption] at hnone
    | error why =>
      exact ⟨rules, why, rfl, rfl, by simp [ending, hr], ending_of_readText_error hr rfl ht⟩

/-! ## What a dry run leaves alone -/

/-- The pipeline is not about to read or write its file. -/
def Stage.KeepsOff : Stage → Prop
  | .reading _ | .writing _ _ => False
  | .linting | .ended _ => True

theorem keepsOff_verdictStep (hd : a.dryRun = true) (p : Path) (v : Verdict) :
    (verdictStep a p v).value.KeepsOff := by
  cases v with
  | failed why => trivial
  | panicked text => trivial
  | rules rules =>
    simp only [verdictStep, takeRules, Logged.value_bind]
    cases rules.isEmpty <;> simp [Stage.KeepsOff, hd]

theorem keepsOff_step (hd : a.dryRun = true) (p : Path) (d : Disk) {stage : Stage}
    (h : stage.KeepsOff) : (step e a p d stage).value.2.KeepsOff := by
  cases stage with
  | linting => exact keepsOff_verdictStep hd p _
  | reading rules => exact h.elim
  | writing rules content => exact h.elim
  | ended how => trivial

theorem disk_step (hk : e.KeepsDisk) (a : Annotator) (p : Path) (d : Disk) {stage : Stage}
    (h : stage.KeepsOff) : (step e a p d stage).value.1 = d := by
  cases stage with
  | linting => exact hk d p
  | reading rules => exact h.elim
  | writing rules content => exact h.elim
  | ended how => rfl

end Pipeline
end BulkSuppress
