import BulkSuppress.Config

/-
  Which drafts become configurations. Validation lets a configuration through as it is if all of
  its checks succeed (`validate_eq_ok`), and a draft is its settings with the gaps filled, if these
  are valid (`build_eq_ok`). Each check looks at one setting, so that an accepted draft stays
  accepted with any other value that passes the same check (`build_congr`).
-/

namespace BulkSuppress.Config

variable {c c' : Config} {draft : Draft} {wd : Except SystemError Path}

/-- What a configuration is checked for. -/
structure IsValid (c : Config) : Prop where
  baseDir : c.baseDir.text ≠ ""
  concurrency : c.concurrency ≠ 0
  remark : '\n' ∉ c.remark.toList ∧ '\r' ∉ c.remark.toList
  pattern : ∃ glob, Glob.parse c.pattern = .ok glob

/-- Validation changes nothing, and lets through what is valid. -/
theorem validate_eq_ok : c.validate = .ok c' ↔ c' = c ∧ c.IsValid := by
  have hdir : c.baseDir.text.isEmpty = true ↔ c.baseDir.text = "" := String.isEmpty_iff
  have hremark : (c.remark.toList.contains '\n' || c.remark.toList.contains '\r') = true ↔
      ¬ ('\n' ∉ c.remark.toList ∧ '\r' ∉ c.remark.toList) := by
    rw [Bool.or_eq_true, List.contains_iff_mem, List.contains_iff_mem]
    exact Decidable.or_iff_not_not_and_not
  unfold validate
  split
  · rename_i h
    exact ⟨nofun, fun hv => absurd (hdir.1 h) hv.2.baseDir⟩
  rename_i hbase
  split
  · rename_i h
    exact ⟨nofun, fun hv => absurd h hv.2.concurrency⟩
  rename_i hconcurrency
  split
  · rename_i h
    exact ⟨nofun, fun hv => absurd hv.2.remark (hremark.1 h)⟩
  rename_i hline
  split
  · rename_i e he
    refine ⟨nofun, fun hv => ?_⟩
    obtain ⟨glob, hglob⟩ := hv.2.pattern
    rw [he] at hglob
    cases hglob
  · rename_i glob hglob
    constructor
    · intro h
      exact ⟨(Except.ok.inj h).symm, fun e => hbase (hdir.2 e), hconcurrency,
        Decidable.not_not.1 fun e => hline (hremark.2 e), glob, hglob⟩
    · rintro ⟨rfl, -⟩
      rfl

/-- The project root of a draft, if one was set or the working directory is known. -/
def Draft.IsRoot (draft : Draft) (wd : Except SystemError Path) (root : Path) : Prop :=
  draft.projectRoot = some root ∨ draft.projectRoot = none ∧ wd = .ok root

/-- A draft becomes what it is with its gaps filled, if that is valid. -/
theorem Draft.build_eq_ok :
    draft.build wd = .ok c ↔ ∃ root, draft.IsRoot wd root ∧ c = draft.fill root ∧ c.IsValid := by
  unfold build IsRoot
  cases hroot : draft.projectRoot with
  | some root =>
    simp only [validate_eq_ok, Option.some.injEq, reduceCtorEq, false_and, or_false]
    constructor
    · rintro ⟨rfl, hv⟩
      exact ⟨root, rfl, rfl, hv⟩
    · rintro ⟨_, rfl, rfl, hv⟩
      exact ⟨rfl, hv⟩
  | none =>
    cases wd with
    | error e => simp
    | ok root =>
      simp only [validate_eq_ok, reduceCtorEq, false_or, true_and, Except.ok.injEq]
      constructor
      · rintro ⟨rfl, hv⟩
        exact ⟨root, rfl, rfl, hv⟩
      · rintro ⟨_, rfl, rfl, hv⟩
        exact ⟨rfl, hv⟩

theorem isValid_of_build (h : draft.build wd = .ok c) : c.IsValid := by
  obtain ⟨-, -, -, hv⟩ := Draft.build_eq_ok.1 h
  exact hv

/-- Another draft for the same project is accepted with what it comes to, if that is valid. -/
theorem Draft.build_congr (draft' : Draft) (h : draft.build wd = .ok c)
    (hroot : draft'.projectRoot = draft.projectRoot)
    (hfill : ∀ root, c = draft.fill root → c' = draft'.fill root) :
    draft'.build wd = .ok c' ↔ c'.IsValid := by
  obtain ⟨root, his, hc, -⟩ := build_eq_ok.1 h
  refine ⟨isValid_of_build, fun hv => build_eq_ok.2 ⟨root, ?_, hfill root hc, hv⟩⟩
  rwa [IsRoot, hroot]

/-- Any number of pipelines but zero is accepted. -/
theorem build_set_concurrency (h : draft.build wd = .ok c) (n : Nat) :
    (draft.set (.concurrency n)).build wd = .ok { c with concurrency := n } ↔ n ≠ 0 := by
  have hv := isValid_of_build h
  refine (Draft.build_congr (draft.set (.concurrency n)) h rfl fun root hc => ?_).trans
    ⟨fun hv' => hv'.concurrency, fun hn => ⟨hv.baseDir, hn, hv.remark, hv.pattern⟩⟩
  rw [hc]
  rfl

/-- Every text without LF and CR is accepted for the first line of headers. -/
theorem build_set_remark (h : draft.build wd = .ok c) (text : String) :
    (draft.set (.remark text)).build wd = .ok { c with remark := text } ↔
      '\n' ∉ text.toList ∧ '\r' ∉ text.toList := by
  have hv := isValid_of_build h
  refine (Draft.build_congr (draft.set (.remark text)) h rfl fun root hc => ?_).trans
    ⟨fun hv' => hv'.remark, fun ht => ⟨hv.baseDir, hv.concurrency, ht, hv.pattern⟩⟩
  rw [hc]
  rfl

end BulkSuppress.Config
