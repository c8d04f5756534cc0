import Mathlib.Data.List.Basic
import BulkSuppress.Eslint
import BulkSuppress.Proofs.Pipeline.Alone
import BulkSuppress.Proofs.Text.Octets

/-
  The pipeline of one file with ESLint as its engine, from the status and the output of the process
  to the bytes of the file. `ComesTo` lists what can come of a file, with what each case takes: the
  conditions are asked in the order of the list, and the first that fails decides. `process_eslint`
  says that the pipeline comes to exactly that, and that the file changes in one of the cases only.

  ESLint itself is taken to leave the disk as it is. What it prints is any bytes, and the status is
  any status.
-/

namespace BulkSuppress

/-- The process ended in a way that goes with a report. -/
def Finished.Answers (f : Finished) : Prop := f.status = .exited 0 ∨ f.status = .exited 1

namespace LintReport

/-- The distinct rules that the messages of the results name, in the order of their first mention. -/
def named (results : List (List Message)) : List String :=
  (results.flatten.filterMap (·.rule)).eraseDups

theorem rules_rulesOf (results : List (List Message)) :
    (rulesOf results.flatten).rules = named results :=
  RuleSet.rules_ofList _

theorem isEmpty_rulesOf (results : List (List Message)) :
    (rulesOf results.flatten).isEmpty = (named results).isEmpty := by
  rw [RuleSet.isEmpty, rules_rulesOf]

theorem size_rulesOf (results : List (List Message)) :
    (rulesOf results.flatten).size = (named results).length := by
  rw [RuleSet.size, rules_rulesOf]

end LintReport

namespace Pipeline
open LintReport (results named isEmpty_rulesOf size_rulesOf)

/-- How a pipeline ends and the bytes it leaves of a file that had the bytes `before`. -/
inductive ComesTo (a : Annotator) (p : Path) (f : Finished) (before : ByteArray) :
    Ending → ByteArray → Prop
  | killed (h : f.status = .signalled) :
    ComesTo a p f before (.failed (.lint p.text .killed)) before
  | refused {code : Nat} (h : f.status = .exited code) (h0 : code ≠ 0) (h1 : code ≠ 1) :
    ComesTo a p f before
      (.failed (.lint p.text (.status code (Eslint.diagnostics f)))) before
  | unreadable {e : Json.Error} (h : f.Answers) (hout : results f.out = .error e) :
    ComesTo a p f before (.failed (.lint p.text (.unreadable e))) before
  | clean {rs : List (List LintReport.Message)} (h : f.Answers) (hout : results f.out = .ok rs)
      (hnone : named rs = []) :
    ComesTo a p f before (.finished .clean) before
  | announced {rs : List (List LintReport.Message)} (h : f.Answers)
      (hout : results f.out = .ok rs) (hsome : named rs ≠ []) (hdry : a.dryRun = true) :
    ComesTo a p f before (.finished (.wouldAnnotate (named rs).length)) before
  | noText {rs : List (List LintReport.Message)} (h : f.Answers) (hout : results f.out = .ok rs)
      (hsome : named rs ≠ []) (hdry : a.dryRun = false) (htext : Utf8.decode? before = none) :
    ComesTo a p f before (.failed (.fileAccess .read p .notText)) before
  | annotated {rs : List (List LintReport.Message)} {rules : RuleSet} {content : String}
      (h : f.Answers) (hout : results f.out = .ok rs) (hrules : rules.rules = named rs)
      (hsome : named rs ≠ []) (hdry : a.dryRun = false)
      (htext : Utf8.decode? before = some content) :
    ComesTo a p f before (.finished (.annotated (named rs).length))
      (Utf8.encode (Header.build a.remark rules) ++ before)

variable {launch : Launcher} {x : Eslint} {a : Annotator} {d : Disk} {p : Path} {f : Finished}
  {loc : Location} {before : ByteArray} {executable : Bool}

/-! ## What ESLint says -/

theorem judge_of_answers (h : f.Answers) : Eslint.judge p f = LintReport.read p f.out := by
  rcases h with h | h <;> rw [Eslint.judge, h] <;> rfl

theorem judge_of_status {code : Nat} (h : f.status = .exited code) (h0 : code ≠ 0)
    (h1 : code ≠ 1) : (Eslint.judge p f).value
      = .error (.lint p.text (.status code (Eslint.diagnostics f))) := by
  rw [Eslint.judge, h]
  split
  · rename_i heq
    exact absurd (ExitStatus.exited.inj heq) h0
  · rename_i heq
    exact absurd (ExitStatus.exited.inj heq) h1
  · rename_i heq
    rw [ExitStatus.exited.inj heq]
  · rename_i heq
    cases heq

theorem judge_of_results {rs : List (List LintReport.Message)} (h : f.Answers)
    (hout : results f.out = .ok rs) :
    (Eslint.judge p f).value = .ok (LintReport.rulesOf rs.flatten) := by
  rw [judge_of_answers h, LintReport.read, hout]

/-- What the engine says, from what the process came to. -/
theorem value_lint_of_launch
    (hlaunch : launch d x.projectRoot x.executable (Eslint.arguments p) = .ok (d, f)) :
    ((x.engine launch).lint d p).value = (d, match (Eslint.judge p f).value with
      | .ok rules => .rules rules
      | .error why => .failed why) := by
  simp only [Eslint.engine, Eslint.lint, hlaunch, Logged.value_bind, Logged.value_pure]
  cases (Eslint.judge p f).value <;> rfl

/-- An ESLint that goes by the file's path alone, and leaves the disk as it is, is local. -/
theorem isLocal_engine {answer : Path → Finished}
    (hlaunch : ∀ d p, launch d x.projectRoot x.executable (Eslint.arguments p)
      = .ok (d, answer p)) : (x.engine launch).IsLocal :=
  ⟨fun d p => by rw [value_lint_of_launch (hlaunch d p)],
    fun d d' p _ => by rw [value_lint_of_launch (hlaunch d p), value_lint_of_launch (hlaunch d' p)]⟩

/-! ## From there to the file -/

theorem process_of_failed {why : Failure}
    (hlaunch : launch d x.projectRoot x.executable (Eslint.arguments p) = .ok (d, f))
    (h : (Eslint.judge p f).value = .error why) :
    (process (x.engine launch) a d p).value = (d, .failed why) := by
  rw [process, Logged.value_bind, value_lint_of_launch hlaunch, h]
  rfl

theorem process_of_rules {rules : RuleSet}
    (hlaunch : launch d x.projectRoot x.executable (Eslint.arguments p) = .ok (d, f))
    (h : (Eslint.judge p f).value = .ok rules) :
    (process (x.engine launch) a d p).value = (annotate a d p rules).value := by
  rw [process, Logged.value_bind, value_lint_of_launch hlaunch, h]

/-- The pipeline comes to each of the cases in turn. -/
theorem process_of_comesTo {how : Ending} {after : ByteArray}
    (hlaunch : launch d x.projectRoot x.executable (Eslint.arguments p) = .ok (d, f))
    (hloc : d.resolve p = .ok loc) (he : d.entryAt? loc = some (.file before executable))
    (h : ComesTo a p f before how after) :
    ∃ d', (process (x.engine launch) a d p).value = (d', how) ∧
      d'.entryAt? loc = some (.file after executable) ∧ Touches d p d d' := by
  have hstays {why : Failure} (hv : (Eslint.judge p f).value = .error why) :
      ∃ d', (process (x.engine launch) a d p).value = (d', .failed why) ∧
        d'.entryAt? loc = some (.file before executable) ∧ Touches d p d d' :=
    ⟨d, process_of_failed hlaunch hv, he, .inl rfl⟩
  have hread (hf : f.Answers) {rs : List (List LintReport.Message)} (hout : results f.out = .ok rs) :
      ∃ d', (process (x.engine launch) a d p).value
          = (d', ending a p (.ok before) (.rules (LintReport.rulesOf rs.flatten))) ∧
        d'.entryAt? loc = some (.file (bytesAfter a before
          (.rules (LintReport.rulesOf rs.flatten))) executable) ∧ Touches d p d d' := by
    rw [process_of_rules hlaunch (judge_of_results hf hout)]
    exact annotate_of_file _ hloc he
  cases h with
  | killed h => exact hstays (by rw [Eslint.judge, h])
  | refused h h0 h1 => exact hstays (judge_of_status h h0 h1)
  | unreadable h hout => exact hstays (by rw [judge_of_answers h, LintReport.read, hout])
  | clean h hout hnone =>
    simpa [ending, bytesAfter, isEmpty_rulesOf, hnone] using hread h hout
  | announced h hout hsome hdry =>
    simpa [ending, bytesAfter, isEmpty_rulesOf, size_rulesOf, hsome, hdry] using hread h hout
  | noText h hout hsome hdry htext =>
    simpa [ending, bytesAfter, isEmpty_rulesOf, hsome, hdry, htext] using hread h hout
  | @annotated rs rules content h hout hrules hsome hdry htext =>
    have hsame : rules = LintReport.rulesOf rs.flatten :=
      RuleSet.ext (hrules.trans (LintReport.rules_rulesOf rs).symm)
    simpa [ending, bytesAfter, isEmpty_rulesOf, size_rulesOf, hsome, hdry, htext, hsame]
      using hread h hout

/-- There is a case for every status, output and content. -/
theorem exists_comesTo (a : Annotator) (p : Path) (f : Finished) (before : ByteArray) :
    ∃ how after, ComesTo a p f before how after := by
  by_cases hf : f.Answers
  · cases hout : results f.out with
    | error e => exact ⟨_, _, .unreadable hf hout⟩
    | ok rs =>
      by_cases hnone : named rs = []
      · exact ⟨_, _, .clean hf hout hnone⟩
      · cases hdry : a.dryRun with
        | true => exact ⟨_, _, .announced hf hout hnone hdry⟩
        | false =>
          cases htext : Utf8.decode? before with
          | none => exact ⟨_, _, .noText hf hout hnone hdry htext⟩
          | some content =>
            exact ⟨_, _, .annotated hf hout (LintReport.rules_rulesOf rs) hnone hdry htext⟩
  · cases hs : f.status with
    | signalled => exact ⟨_, _, .killed hs⟩
    | exited code =>
      exact ⟨_, _, .refused hs (fun h => hf (.inl (h ▸ hs))) (fun h => hf (.inr (h ▸ hs)))⟩

/-- There is a header in front of the bytes, whatever it is for. -/
theorem encode_build_append_ne (remark : String) (rules : RuleSet) (bytes : ByteArray) :
    Utf8.encode (Header.build remark rules) ++ bytes ≠ bytes := by
  intro heq
  have hsize := congrArg ByteArray.size heq
  have hheader : (Utf8.encode (Header.build remark rules)).size
      = ("// " ++ remark ++ "\n" ++ (rules.rules.map Header.suppression).foldr
          (fun line rest => line ++ "\n" ++ rest) "").utf8ByteSize := rfl
  have hopen : "// ".utf8ByteSize = 3 := by decide
  rw [ByteArray.size_append, hheader] at hsize
  simp only [String.utf8ByteSize_append, hopen] at hsize
  omega

/--
The pipeline of a file comes to one of the cases, the only one whose conditions hold, and nothing
but the file is changed. The file is changed exactly if ESLint ended with status 0 or 1 and its
output is a report that names a rule, the run is not a dry one, and the content is UTF-8.
-/
theorem process_eslint
    (hlaunch : launch d x.projectRoot x.executable (Eslint.arguments p) = .ok (d, f))
    (hloc : d.resolve p = .ok loc) (he : d.entryAt? loc = some (.file before executable)) :
    ∃ d' how after, (process (x.engine launch) a d p).value = (d', how) ∧
      d'.entryAt? loc = some (.file after executable) ∧
      (∀ loc', loc' ≠ loc → d'.entryAt? loc' = d.entryAt? loc') ∧
      (∀ how' after', ComesTo a p f before how' after' ↔ how' = how ∧ after' = after) ∧
      (after ≠ before ↔ (f.status = .exited 0 ∨ f.status = .exited 1) ∧
        (∃ rs, results f.out = .ok rs ∧ named rs ≠ []) ∧ a.dryRun = false ∧
        (Utf8.decode? before).isSome) := by
  obtain ⟨how, after, hcase⟩ := exists_comesTo a p f before
  obtain ⟨d', hrun, hafter, htouch⟩ := process_of_comesTo (a := a) hlaunch hloc he hcase
  -- the run has one end only, so that no other case holds
  have hunique : ∀ how' after', ComesTo a p f before how' after' → how' = how ∧ after' = after := by
    intro how' after' hcase'
    obtain ⟨d'', hrun', hafter', -⟩ := process_of_comesTo (a := a) hlaunch hloc he hcase'
    obtain ⟨rfl, rfl⟩ := Prod.mk.inj (hrun.symm.trans hrun')
    rw [hafter, Option.some.injEq, Entry.file.injEq] at hafter'
    exact ⟨rfl, hafter'.1.symm⟩
  refine ⟨d', how, after, hrun, hafter, fun loc' hne => ?_, fun how' after' =>
    ⟨hunique how' after', ?_⟩, ?_, ?_⟩
  · exact Disk.entryAt?_of_touches htouch fun hloc' => hne (Except.ok.inj (hloc'.symm.trans hloc))
  · rintro ⟨rfl, rfl⟩
    exact hcase
  · intro hne
    cases hcase with
    | annotated h hout hrules hsome hdry htext =>
      exact ⟨h, ⟨_, hout, hsome⟩, hdry, by simp [htext]⟩
    | _ => exact absurd rfl hne
  · rintro ⟨h, ⟨rs, hout, hsome⟩, hdry, htext⟩
    obtain ⟨content, htext⟩ := Option.isSome_iff_exists.1 htext
    obtain ⟨-, hheader⟩ :=
      hunique _ _ (.annotated h hout (LintReport.rules_rulesOf rs) hsome hdry htext)
    rw [← hheader]
    exact encode_build_append_ne a.remark _ before

/-! ## A report with two rules -/

/-- What ESLint prints about two rules, of which one is violated twice. -/
def violations : Finished where
  status := .exited 1
  out := ("[\x7b\"messages\":[\x7b\"ruleId\":\"semi\"\x7d,\x7b\"ruleId\":\"quotes\"\x7d," ++
    "\x7b\"ruleId\":null\x7d,\x7b\"ruleId\":\"semi\"\x7d]\x7d]").toUTF8

/-- ESLint finds the same violations in every file. -/
def findViolations : Launcher := fun d _ _ _ => .ok (d, violations)

/-- An ESLint in a project at the root of the disk. -/
def rootEslint : Eslint := ⟨Eslint.executablePath ⟨"/"⟩, ⟨"/"⟩, "v9.0.0"⟩

/-- The file gets a header for the two rules. -/
theorem process_eslint_violations :
    findViolations (.single "x = 1") rootEslint.projectRoot rootEslint.executable
        (Eslint.arguments ⟨"/a.js"⟩) = .ok (.single "x = 1", violations) ∧
      (Disk.single "x = 1").resolve ⟨"/a.js"⟩ = .ok ["a.js"] ∧
      ∃ d', (process (rootEslint.engine findViolations) ⟨"TODO", false⟩ (.single "x = 1")
          ⟨"/a.js"⟩).value = (d', .finished (.annotated 2)) ∧
        d'.entryAt? ["a.js"] = some (.file (Utf8.encode
          (Header.build "TODO" (RuleSet.ofList ["semi", "quotes"])) ++ Utf8.encode "x = 1")
            false) := by
  obtain ⟨rs, hout, hnamed⟩ : ∃ rs, results violations.out = .ok rs ∧
      named rs = ["semi", "quotes"] :=
    ⟨[["semi", "quotes"].map (fun rule => ⟨some rule, false, ""⟩) ++
      [⟨none, false, ""⟩, ⟨some "semi", false, ""⟩]], by decide +kernel, by decide⟩
  have hlaunch : findViolations (.single "x = 1") rootEslint.projectRoot rootEslint.executable
      (Eslint.arguments ⟨"/a.js"⟩) = .ok (.single "x = 1", violations) := rfl
  have hrules : (RuleSet.ofList ["semi", "quotes"]).rules = named rs := by
    rw [hnamed]
    decide
  obtain ⟨d', how, after, hrun, hafter, -, hcases, -⟩ :=
    process_eslint (a := ⟨"TODO", false⟩) hlaunch (Disk.resolve_single _) rfl
  obtain ⟨rfl, rfl⟩ := (hcases _ _).1 (.annotated (.inr rfl) hout hrules (by simp [hnamed]) rfl
    (Utf8.decode?_encode "x = 1"))
  rw [hnamed] at hrun
  exact ⟨hlaunch, Disk.resolve_single _, d', hrun, hafter⟩

end Pipeline
end BulkSuppress
