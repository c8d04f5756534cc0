import Mathlib.Data.List.Forall2
import BulkSuppress.Proofs.Json.Scanning
import BulkSuppress.Proofs.Json.Unambiguous
import BulkSuppress.Proofs.Path.Components
import BulkSuppress.Report.Format

/-
  What can be read back from a report that was written as JSON. The text spells one value, and
  whoever takes that value apart (`Record.ofValue?`) has a record of each file and each failure, in
  the order of the report, and counts that are those of the records (`Record.Tallies`). A path that
  is shown relative to the project root is the path again when it is seen from there
  (`components_located_display`), also where it lies elsewhere or is the root itself. So the text
  leaves no doubt about the report, up to how its paths are spelled.
-/

namespace BulkSuppress

namespace Json

variable {α β : Type}

/-! ## Taking values apart -/

namespace Value

def text? : Value → Option String
  | .string us => textOf? us
  | _ => none

/-- A number that is written with digits only. -/
def natural? : Value → Option Nat
  | .number ds => if ds.all Char.isDigit then some (Nat.ofDigitChars 10 ds 0) else none
  | _ => none

/-- The elements of a list, each of them taken apart. -/
def each? (read : Value → Option α) : Value → Option (List α)
  | .list vs => vs.mapM read
  | _ => none

end Value

namespace Document

@[simp] theorem text?_string (s : String) : (string s).value.text? = some s := textOf?_units s

@[simp] theorem natural?_number (n : Nat) : (number n).value.natural? = some n := by
  have hdigits : (Nat.toDigits 10 n).all Char.isDigit = true :=
    List.all_eq_true.2 fun _ => Nat.isDigit_of_mem_toDigits (by decide) (by decide)
  rw [value, Value.natural?, if_pos hdigits, Nat.ofDigitChars_toDigits (by decide) (by decide)]

theorem lookup_entries (key : String) (ms : List (String × Document)) :
    (entries ms).lookup (units key) = (ms.lookup key).map value := by
  induction ms with
  | nil => rfl
  | cons m ms ih =>
    obtain ⟨k, x⟩ := m
    rw [entries, List.lookup_cons, List.lookup_cons, ih]
    by_cases h : key = k
    · simp [h]
    · have hunits : units key ≠ units k := fun e => h (units_inj e)
      simp [beq_false_of_ne h, beq_false_of_ne hunits]

/-- The members of an object are found by their keys. -/
@[simp] theorem member?_object (key : String) (ms : List (String × Document)) :
    (object ms).value.member? key = (ms.lookup key).map value := by
  rw [value, Value.member?, lookup_entries]

theorem mapM_values {read : Value → Option β} {write : α → Document} {f : α → β}
    (h : ∀ a, read (write a).value = some (f a)) (as : List α) :
    (values (as.map write)).mapM read = some (as.map f) := by
  induction as with
  | nil => rfl
  | cons a as ih =>
    rw [List.map_cons, values, List.mapM_cons, h, ih]
    rfl

/-- A list is taken apart if each of its elements is. -/
theorem each?_list {read : Value → Option β} {write : α → Document} {f : α → β}
    (h : ∀ a, read (write a).value = some (f a)) (as : List α) :
    (list (as.map write)).value.each? read = some (as.map f) :=
  mapM_values h as

end Document
end Json

/-! ## Taking reports apart -/

/-- What is said of a file that reached its end. -/
structure FileRecord where
  path : String
  status : String
  rules : Nat
deriving DecidableEq, Repr

/-- What is said of a file that failed. -/
structure FailureRecord where
  path : String
  error : String
deriving DecidableEq, Repr

/-- What a report says that is written as JSON. -/
structure Record where
  files : List FileRecord
  failures : List FailureRecord
  total : Nat
  annotated : Nat
  clean : Nat
  failed : Nat
  rulesDisabled : Nat
deriving DecidableEq, Repr

open Json (Value)

def FileRecord.ofValue? (v : Value) : Option FileRecord := do
  let path ← (← v.member? "path").text?
  let status ← (← v.member? "status").text?
  let rules ← (← v.member? "rules").natural?
  return ⟨path, status, rules⟩

def FailureRecord.ofValue? (v : Value) : Option FailureRecord := do
  let path ← (← v.member? "path").text?
  let error ← (← v.member? "error").text?
  return ⟨path, error⟩

namespace Record

def ofValue? (v : Value) : Option Record := do
  let files ← (← v.member? "files").each? FileRecord.ofValue?
  let failures ← (← v.member? "failures").each? FailureRecord.ofValue?
  let summary ← v.member? "summary"
  let total ← (← summary.member? "total_files").natural?
  let annotated ← (← summary.member? "annotated").natural?
  let clean ← (← summary.member? "clean").natural?
  let failed ← (← summary.member? "failed").natural?
  let rulesDisabled ← (← summary.member? "rules_disabled").natural?
  return ⟨files, failures, total, annotated, clean, failed, rulesDisabled⟩

/-- The counts are those of the records. -/
structure Tallies (x : Record) : Prop where
  total : x.total = x.files.length + x.failures.length
  annotated : x.annotated = x.files.countP (·.status != "clean")
  clean : x.clean = x.files.countP (·.status == "clean")
  failed : x.failed = x.failures.length
  rulesDisabled : x.rulesDisabled = (x.files.map (·.rules)).foldr (· + ·) 0

end Record

/-! ## What is read back -/

namespace Formatter

variable (f : Formatter) (r : BatchReport)

def fileRecord (o : Path × Outcome) : FileRecord := ⟨f.display o.1, status o.2, o.2.rules?.getD 0⟩

def failureRecord (x : FileFailure) : FailureRecord := ⟨f.display x.path, x.failure.message⟩

def record : Record where
  files := r.outcomes.map f.fileRecord
  failures := r.failures.map f.failureRecord
  total := r.total
  annotated := r.annotated.length
  clean := r.cleanCount
  failed := r.failures.length
  rulesDisabled := r.rulesDisabled

theorem ofValue?_fileEntry (o : Path × Outcome) :
    FileRecord.ofValue? (f.fileEntry o).value = some (f.fileRecord o) := by
  simp [FileRecord.ofValue?, fileEntry, fileRecord, List.lookup_cons]

theorem ofValue?_failureEntry (x : FileFailure) :
    FailureRecord.ofValue? (f.failureEntry x).value = some (f.failureRecord x) := by
  simp [FailureRecord.ofValue?, failureEntry, failureRecord, List.lookup_cons]

theorem ofValue?_document : Record.ofValue? (f.document r).value = some (f.record r) := by
  have hfiles := Json.Document.each?_list (f.ofValue?_fileEntry) r.outcomes
  have hfailures := Json.Document.each?_list (f.ofValue?_failureEntry) r.failures
  simp [Record.ofValue?, document, List.lookup_cons, hfiles, hfailures]
  rfl

/-- What is written to a report adds up. -/
theorem tallies_record : (f.record r).Tallies where
  total := by simp [record, BatchReport.total]
  annotated := by
    rw [record, BatchReport.annotated, List.length_filterMap_eq_countP, List.countP_map]
    refine List.countP_congr fun o _ => ?_
    obtain ⟨p, o⟩ := o
    cases o <;> simp [Outcome.rules?, fileRecord, status]
  clean := by
    rw [record, BatchReport.cleanCount, List.countP_map]
    refine List.countP_congr fun o _ => ?_
    obtain ⟨p, o⟩ := o
    cases o <;> simp [fileRecord, status]
  failed := by simp [record]
  rulesDisabled := by
    simp only [record, BatchReport.rulesDisabled, BatchReport.annotated]
    induction r.outcomes with
    | nil => rfl
    | cons o os ih =>
      obtain ⟨p, o⟩ := o
      cases o <;> simpa [Outcome.rules?, fileRecord] using ih

/-! ### Paths -/

/-- Where a path that is shown leads, seen from the project root if there is one. -/
def located (shown : String) : Path :=
  match f.projectRoot with
  | none => ⟨shown⟩
  | some root => root.join ⟨shown⟩

variable {f r}

theorem components_located_display (hroot : ∀ root ∈ f.projectRoot, root.isAbsolute = true)
    {p : Path} (hp : p.isAbsolute = true) :
    (f.located (f.display p)).components = p.components := by
  unfold located display
  cases h : f.projectRoot with
  | none => rfl
  | some root =>
    dsimp only
    cases hq : p.stripPrefix? root with
    | some q => exact Path.components_join_stripPrefix? (hroot root h) hq
    | none =>
      have hself : root.join p = p := by simp [Path.join, hp]
      exact congrArg Path.components hself

/-! ### Faithfulness -/

/-- The record says what became of a file, and where the file is. -/
structure TellsFile (f : Formatter) (x : FileRecord) (o : Path × Outcome) : Prop where
  status : x.status = Formatter.status o.2
  rules : x.rules = o.2.rules?.getD 0
  path : (f.located x.path).components = o.1.components

/-- The record says how a file failed, and where the file is. -/
structure TellsFailure (f : Formatter) (x : FailureRecord) (y : FileFailure) : Prop where
  error : x.error = y.failure.message
  path : (f.located x.path).components = y.path.components

end Formatter

/-- All paths of the report start at the root directory. -/
structure BatchReport.IsAbsolute (r : BatchReport) : Prop where
  outcomes : ∀ o ∈ r.outcomes, o.1.isAbsolute = true
  failures : ∀ x ∈ r.failures, x.path.isAbsolute = true

/-- The reports differ in how paths and failures are spelled only. -/
structure BatchReport.Alike (r r' : BatchReport) : Prop where
  outcomes : List.Forall₂ (fun o o' => o.1.components = o'.1.components ∧ o.2 = o'.2)
    r.outcomes r'.outcomes
  failures : List.Forall₂ (fun x x' => x.path.components = x'.path.components ∧
    x.failure.message = x'.failure.message) r.failures r'.failures

namespace Formatter

variable {f : Formatter} {r r' : BatchReport}

theorem outcome_eq {o o' : Outcome} (hstatus : status o = status o')
    (hrules : o.rules?.getD 0 = o'.rules?.getD 0) : o = o' := by
  cases o <;> cases o' <;> simp_all [status, Outcome.rules?]

theorem forall₂_of_common {α β γ : Type} {R : α → β → Prop} {S : α → γ → Prop} {T : β → γ → Prop}
    (hmeet : ∀ x y z, R x y → S x z → T y z) {xs : List α} {ys : List β} {zs : List γ}
    (h : List.Forall₂ R xs ys) (h' : List.Forall₂ S xs zs) : List.Forall₂ T ys zs := by
  induction h generalizing zs with
  | nil =>
    cases h'
    exact .nil
  | cons hxy _ ih =>
    cases h' with
    | cons hxz htail => exact .cons (hmeet _ _ _ hxy hxz) (ih htail)

theorem tellsFiles_record (hroot : ∀ root ∈ f.projectRoot, root.isAbsolute = true)
    (hr : r.IsAbsolute) : List.Forall₂ f.TellsFile (f.record r).files r.outcomes := by
  rw [record, List.forall₂_map_left_iff, List.forall₂_same]
  exact fun o ho => ⟨rfl, rfl, components_located_display hroot (hr.outcomes o ho)⟩

theorem tellsFailures_record (hroot : ∀ root ∈ f.projectRoot, root.isAbsolute = true)
    (hr : r.IsAbsolute) : List.Forall₂ f.TellsFailure (f.record r).failures r.failures := by
  rw [record, List.forall₂_map_left_iff, List.forall₂_same]
  exact fun x hx => ⟨rfl, components_located_display hroot (hr.failures x hx)⟩

/-- What is printed is one value, from which the record is read. -/
theorem isText_json (w : Value) : Json.IsText w (f.json r).toList ↔ w = (f.document r).value := by
  have h := Json.Document.isText_toText (f.document r)
  exact ⟨fun h' => h'.unique h, fun e => e ▸ h⟩

/--
The text of a report spells one value, which says of each file, in the order of the report, what
became of it, for how many rules, and where it is, of each failure its error and its file, and how
many there are of each. So reports with the same text are alike.
-/
theorem json_faithful (hroot : ∀ root ∈ f.projectRoot, root.isAbsolute = true)
    (hr : r.IsAbsolute) :
    (∃ v x, (∀ w, Json.IsText w (f.json r).toList ↔ w = v) ∧ Record.ofValue? v = some x ∧
      List.Forall₂ f.TellsFile x.files r.outcomes ∧
      List.Forall₂ f.TellsFailure x.failures r.failures ∧ x.Tallies) ∧
    ∀ r' : BatchReport, r'.IsAbsolute → f.json r = f.json r' → r.Alike r' := by
  refine ⟨⟨_, _, isText_json, f.ofValue?_document r, tellsFiles_record hroot hr,
    tellsFailures_record hroot hr, f.tallies_record r⟩, fun r' hr' h => ?_⟩
  have hvalue : (f.document r).value = (f.document r').value := by
    rw [← isText_json (r := r'), ← h, isText_json]
  have hrecord : f.record r = f.record r' := by
    have := f.ofValue?_document r
    rw [hvalue, f.ofValue?_document r'] at this
    exact (Option.some.inj this).symm
  have hfiles := tellsFiles_record hroot hr'
  have hfailures := tellsFailures_record hroot hr'
  rw [← hrecord] at hfiles hfailures
  constructor
  · refine forall₂_of_common (fun x o o' ho ho' => ?_) (tellsFiles_record hroot hr) hfiles
    exact ⟨ho.path.symm.trans ho'.path, outcome_eq (ho.status.symm.trans ho'.status)
      (ho.rules.symm.trans ho'.rules)⟩
  · refine forall₂_of_common (fun x y y' hy hy' => ?_) (tellsFailures_record hroot hr) hfailures
    exact ⟨hy.path.symm.trans hy'.path, hy.error.symm.trans hy'.error⟩

/-! ### Paths inside the project and outside -/

/-- What lies in the project is shown from its root. -/
def projectFormatter : Formatter where
  projectRoot := some ⟨"/work"⟩

/-- The root itself, a file below it and one elsewhere, and a failure with a text to escape. -/
def mixedReport (third : Path) : BatchReport where
  outcomes := [(⟨"/work"⟩, .clean), (⟨"/work/src/\"a\".js"⟩, .annotated 2),
    (third, .wouldAnnotate 1)]
  failures := [⟨⟨"/work//c.js"⟩, .lint "c.js" (.other "\x01 \\ \n é 𝄞")⟩]

theorem isAbsolute_mixedReport {third : Path} (h : third.isAbsolute = true) :
    (mixedReport third).IsAbsolute where
  outcomes := by
    simp only [mixedReport, List.forall_mem_cons]
    exact ⟨by decide, by decide, h, List.forall_mem_nil _⟩
  failures := by
    simp only [mixedReport, List.forall_mem_cons]
    exact ⟨by decide, List.forall_mem_nil _⟩

/-- A file outside of the project is told from the one at the same place inside. -/
theorem json_faithful_mixedReport :
    (∃ v x, Json.IsText v (projectFormatter.json (mixedReport ⟨"/lib/b.js"⟩)).toList ∧
      Record.ofValue? v = some x ∧ x.total = 4 ∧ x.annotated = 2 ∧ x.rulesDisabled = 3) ∧
    projectFormatter.json (mixedReport ⟨"/lib/b.js"⟩)
      ≠ projectFormatter.json (mixedReport ⟨"/work/lib/b.js"⟩) := by
  have hroot : ∀ root ∈ projectFormatter.projectRoot, root.isAbsolute = true := by
    rintro _ ⟨⟩
    decide
  have hr : (mixedReport ⟨"/lib/b.js"⟩).IsAbsolute := isAbsolute_mixedReport (by decide)
  obtain ⟨⟨v, x, hv, hx, hfiles, hfailures, htallies⟩, halike⟩ := json_faithful hroot hr
  refine ⟨⟨v, x, (hv v).2 rfl, hx, ?_⟩, fun h => ?_⟩
  · obtain ⟨files, failures, total, annotated, clean, failed, rulesDisabled⟩ := x
    obtain _ | ⟨h₁, _ | ⟨h₂, _ | ⟨h₃, _ | _⟩⟩⟩ := hfiles
    obtain _ | ⟨-, _ | _⟩ := hfailures
    refine ⟨htallies.total, htallies.annotated.trans ?_, htallies.rulesDisabled.trans ?_⟩
    · simp [h₁.status, h₂.status, h₃.status, status]
    · simp [h₁.rules, h₂.rules, h₃.rules, Outcome.rules?]
  · obtain _ | ⟨-, _ | ⟨-, _ | ⟨hthird, -⟩⟩⟩ :=
      (halike _ (isAbsolute_mixedReport (by decide)) h).outcomes
    exact absurd hthird.1 (by decide)

end Formatter
end BulkSuppress
