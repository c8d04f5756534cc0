import BulkSuppress.CommandLine.Perform
import BulkSuppress.Proofs.Config.Accepted
import Mathlib.Data.List.Basic

/-
  What a configuration is made of. Each of its fields is what was last said on it, by a setting of
  its own or by an options file that has it, and its default if nothing was (`merged`). That holds
  of any sequence of settings, since a draft keeps what it has where a setting says nothing
  (`Field.kept_setAll`, by the one law that a `Field` comes with). What is merged is then checked,
  and the first check that fails is reported (`settles_validate`). On the command line the options
  file speaks first, so that the arguments go over it and it goes over the defaults (`asked`).

  Where a project root is neither set nor to be had from the working directory, there is nothing to
  merge, and nothing is said here.
-/

namespace BulkSuppress

namespace Config

variable {α β : Type} {c : Config} {draft : Draft}

/-! ## Fields -/

/-- A field of drafts: what a setting says on it, and what a draft has for it. -/
structure Field (α : Type) where
  said : Setting → Option α
  kept : Draft → Option α
  /-- What a setting says counts, and where it says nothing, what was there stays. -/
  kept_set : ∀ draft s, kept (draft.set s) = (said s).or (kept draft)

namespace Field

/-- What the settings say last on the field. -/
def last (f : Field α) (settings : List Setting) : Option α :=
  (settings.filterMap f.said).getLast?

def projectRoot : Field Path where
  said | .projectRoot p => some p | _ => none
  kept := Draft.projectRoot
  kept_set draft s := by cases s <;> rfl

def ignoreFile : Field Path where
  said | .ignoreFile p => some p | .options o => o.ignoreFile | _ => none
  kept := Draft.ignoreFile
  kept_set draft s := by cases s <;> rfl

def pattern : Field String where
  said | .pattern p => some p | .options o => o.pattern | _ => none
  kept := Draft.pattern
  kept_set draft s := by cases s <;> rfl

def concurrency : Field Nat where
  said | .concurrency n => some n | .options o => o.concurrency | _ => none
  kept := Draft.concurrency
  kept_set draft s := by cases s <;> rfl

def remark : Field String where
  said | .remark text => some text | .options o => o.remark | _ => none
  kept := Draft.remark
  kept_set draft s := by cases s <;> rfl

def verbose : Field Bool where
  said | .verbose on => some on | .options o => o.verbose | _ => none
  kept := Draft.verbose
  kept_set draft s := by cases s <;> rfl

/-- There is no gap for this one: a draft starts out with its default. -/
def dryRun : Field Bool where
  said | .dryRun on => some on | _ => none
  kept draft := some draft.dryRun
  kept_set draft s := by cases s <;> rfl

variable (f : Field α)

theorem last_append (xs ys : List Setting) : f.last (xs ++ ys) = (f.last ys).or (f.last xs) := by
  rw [last, List.filterMap_append, List.getLast?_append]
  rfl

theorem last_toList (x : Option β) (make : β → Setting) :
    f.last (x.map make).toList = x.bind fun b => f.said (make b) := by
  cases x with
  | none => rfl
  | some b => cases h : f.said (make b) <;> simp [last, h]

/-- The last word counts, and what was there before any. -/
theorem kept_setAll (draft : Draft) (settings : List Setting) :
    f.kept (draft.setAll settings) = (f.last settings).or (f.kept draft) := by
  induction settings generalizing draft with
  | nil => rfl
  | cons s settings ih =>
    have hsaid : f.last [s] = f.said s := by cases h : f.said s <;> simp [last, h]
    calc f.kept (draft.setAll (s :: settings))
      _ = (f.last settings).or (f.kept (draft.set s)) := ih (draft.set s)
      _ = (f.last settings).or ((f.last [s]).or (f.kept draft)) := by rw [f.kept_set, hsaid]
      _ = (f.last (s :: settings)).or (f.kept draft) := by
        rw [← Option.or_assoc, ← f.last_append, List.singleton_append]

end Field

/-! ## Merging -/

/-- A path that is taken from a directory, if it does not start at the root itself. -/
def resolved (root p : Path) : Path := if p.isAbsolute then p else root.join p

/-- The last word on each field, and its default where there is none. -/
def merged (base root : Path) (settings : List Setting) : Config where
  baseDir := base
  projectRoot := root
  ignoreFile := resolved root ((Field.ignoreFile.last settings).getD defaultIgnoreFile)
  pattern := (Field.pattern.last settings).getD defaultPattern
  concurrency := (Field.concurrency.last settings).getD defaultConcurrency
  remark := (Field.remark.last settings).getD defaultRemark
  verbose := (Field.verbose.last settings).getD false
  dryRun := (Field.dryRun.last settings).getD false

theorem join_eq_resolved (root p : Path) : root.join p = resolved root p := by
  rw [resolved]
  split
  · rename_i h
    simp [Path.join, h]
  · rfl

theorem baseDir_setAll (draft : Draft) (settings : List Setting) :
    (draft.setAll settings).baseDir = draft.baseDir := by
  induction settings generalizing draft with
  | nil => rfl
  | cons s settings ih => exact (ih (draft.set s)).trans (by cases s <;> rfl)

/-- What a draft for a directory comes to with its gaps filled. -/
theorem fill_setAll (base root : Path) (settings : List Setting) :
    (Draft.setAll { baseDir := base } settings).fill root = merged base root settings := by
  have ofGap {α : Type} (f : Field α) (h : f.kept { baseDir := base } = none) :
      f.kept (Draft.setAll { baseDir := base } settings) = f.last settings := by
    rw [f.kept_setAll, h, Option.or_none]
  have hdryRun : (Draft.setAll { baseDir := base } settings).dryRun
      = (Field.dryRun.last settings).getD false := by
    have h := Field.dryRun.kept_setAll { baseDir := base } settings
    cases hlast : Field.dryRun.last settings <;> rw [hlast] at h <;> exact Option.some.inj h
  rw [Draft.fill, join_eq_resolved, baseDir_setAll, hdryRun,
    show (Draft.setAll _ settings).ignoreFile = _ from ofGap .ignoreFile rfl,
    show (Draft.setAll _ settings).pattern = _ from ofGap .pattern rfl,
    show (Draft.setAll _ settings).concurrency = _ from ofGap .concurrency rfl,
    show (Draft.setAll _ settings).remark = _ from ofGap .remark rfl,
    show (Draft.setAll _ settings).verbose = _ from ofGap .verbose rfl]
  rfl

theorem projectRoot_setAll (base : Path) (settings : List Setting) :
    (Draft.setAll { baseDir := base } settings).projectRoot = Field.projectRoot.last settings :=
  (Field.projectRoot.kept_setAll { baseDir := base } settings).trans Option.or_none

/-! ## Checking -/

/-- The first check that the configuration fails, in the order of the checks. -/
inductive FirstFailed (c : Config) : Failure → Prop
  | noDirectory (h : c.baseDir.text = "") : FirstFailed c (.usage .noDirectory)
  | zeroConcurrency (hdir : c.baseDir.text ≠ "") (h : c.concurrency = 0) :
      FirstFailed c (.config .zeroConcurrency)
  | prefixOverLines (hdir : c.baseDir.text ≠ "") (hconcurrency : c.concurrency ≠ 0)
      (h : '\n' ∈ c.remark.toList ∨ '\r' ∈ c.remark.toList) :
      FirstFailed c (.config .prefixOverLines)
  | invalidPattern (hdir : c.baseDir.text ≠ "") (hconcurrency : c.concurrency ≠ 0)
      (hremark : '\n' ∉ c.remark.toList ∧ '\r' ∉ c.remark.toList) {e : Glob.SyntaxError}
      (h : Glob.parse c.pattern = .error e) :
      FirstFailed c (.config (.invalidPattern c.pattern e))

/-- The result is the configuration if it is valid, and the first check that it fails if not. -/
structure Settles (c : Config) (r : Except Failure Config) : Prop where
  ok_iff : ∀ c', r = .ok c' ↔ c' = c ∧ c.IsValid
  error_iff : ∀ e, r = .error e ↔ FirstFailed c e

theorem firstFailed_of_validate {e : Failure} (h : c.validate = .error e) : FirstFailed c e := by
  have hdir : c.baseDir.text.isEmpty = true ↔ c.baseDir.text = "" := String.isEmpty_iff
  unfold validate at h
  split at h
  · rename_i hempty
    cases h
    exact .noDirectory (hdir.1 hempty)
  rename_i hempty
  split at h
  · rename_i hzero
    cases h
    exact .zeroConcurrency (mt hdir.2 hempty) hzero
  rename_i hzero
  split at h <;> rename_i hline <;>
    rw [Bool.or_eq_true, List.contains_iff_mem, List.contains_iff_mem] at hline
  · cases h
    exact .prefixOverLines (mt hdir.2 hempty) hzero hline
  · split at h
    · rename_i he
      cases h
      exact .invalidPattern (mt hdir.2 hempty) hzero (not_or.1 hline) he
    · cases h

theorem settles_validate (c : Config) : Settles c c.validate where
  ok_iff _ := validate_eq_ok
  error_iff e := by
    refine ⟨firstFailed_of_validate, fun h => ?_⟩
    cases h with
    | noDirectory h => simp [validate, h]
    | zeroConcurrency hdir h => simp [validate, hdir, h]
    | prefixOverLines hdir hconcurrency h => simp [validate, hdir, hconcurrency, h]
    | invalidPattern hdir hconcurrency hremark h =>
      simp [validate, hdir, hconcurrency, hremark, h]

/-- Settings are merged and checked, once there is a project root. -/
theorem settles_build {base root : Path} {settings : List Setting} {wd : Except SystemError Path}
    (hroot : Field.projectRoot.last settings = some root ∨
      Field.projectRoot.last settings = none ∧ wd = .ok root) :
    Settles (merged base root settings) ((Draft.setAll { baseDir := base } settings).build wd) := by
  have hbuild : (Draft.setAll { baseDir := base } settings).build wd
      = (merged base root settings).validate := by
    rw [← fill_setAll]
    rcases hroot with h | ⟨h, rfl⟩ <;> simp only [Draft.build, projectRoot_setAll, h]
  rw [hbuild]
  exact settles_validate _

end Config

/-! ## On the command line -/

namespace CommandLine

open Config (Setting resolved)

/-- What the options file gives, be it one that is asked for or one that is found. -/
def fileOptions (a : Arguments) (d : Disk) : Except Failure (Option Options) :=
  match a.optionsFile with
  | some p => (Options.load d p).map some
  | none => (Options.discover d (workingDirectory d)).value.map (·.map (·.2))

/-- The arguments over the options file over the defaults. -/
def asked (a : Arguments) (file : Option Options) (directory root : Path) : Config where
  baseDir := directory
  projectRoot := root
  ignoreFile := resolved root ((file.bind (·.ignoreFile)).getD Config.defaultIgnoreFile)
  pattern := (a.pattern.or (file.bind (·.pattern))).getD Config.defaultPattern
  concurrency := (a.concurrency.or (file.bind (·.concurrency))).getD Config.defaultConcurrency
  remark := (a.remark.or (file.bind (·.remark))).getD Config.defaultRemark
  verbose := a.verbose.isSome || (file.bind (·.verbose)).getD false
  dryRun := a.dryRun.isSome

theorem fileSettings_eq (a : Arguments) (d : Disk) :
    fileSettings a d = (fileOptions a d).map fun file => (file.map Setting.options).toList := by
  unfold fileSettings fileOptions
  cases a.optionsFile with
  | some p =>
    dsimp only
    cases Options.load d p <;> rfl
  | none =>
    dsimp only
    cases (Options.discover d (workingDirectory d)).value with
    | error e => rfl
    | ok found => cases found <;> rfl

/-- What is said last on a field, by the options file and the arguments behind it. -/
theorem last_settings {α : Type} (f : Config.Field α) (a : Arguments) (file : Option Options) :
    f.last ((file.map Setting.options).toList ++ a.settings) =
      (f.said (.dryRun a.dryRun.isSome)).or ((a.verbose.bind fun _ => f.said (.verbose true)).or
        ((a.remark.bind fun text => f.said (.remark text)).or
          ((a.concurrency.bind fun n => f.said (.concurrency n)).or
            ((a.pattern.bind fun p => f.said (.pattern p)).or
              (file.bind fun o => f.said (.options o)))))) := by
  have hsingle (s : Setting) : f.last [s] = f.said s := f.last_toList (some s) id
  simp only [Arguments.settings, f.last_append, f.last_toList, hsingle, Option.or_assoc]

theorem merged_settings (a : Arguments) (file : Option Options) (directory root : Path) :
    Config.merged directory root ((file.map Setting.options).toList ++ a.settings)
      = asked a file directory root := by
  have hverbose : (a.verbose.isSome || (file.bind (·.verbose)).getD false)
      = ((a.verbose.bind fun _ => some true).or (file.bind (·.verbose))).getD false := by
    cases a.verbose <;> rfl
  rw [asked, hverbose]
  simp only [Config.merged, last_settings]
  simp [Config.Field.ignoreFile, Config.Field.pattern, Config.Field.concurrency,
    Config.Field.remark, Config.Field.verbose, Config.Field.dryRun]

theorem settles_configOf {a : Arguments} {directory : Path} {d : Disk} {file : Option Options}
    (h : fileOptions a d = .ok file) :
    Config.Settles (asked a file directory (workingDirectory d)) (configOf a directory d) := by
  have hroot :
      Config.Field.projectRoot.last ((file.map Setting.options).toList ++ a.settings) = none := by
    rw [last_settings]
    simp [Config.Field.projectRoot]
  have hconfig : configOf a directory d = (Config.Draft.setAll { baseDir := directory }
      ((file.map Setting.options).toList ++ a.settings)).build (.ok (workingDirectory d)) := by
    simp only [configOf, fileSettings_eq, h]
    rfl
  rw [hconfig, ← merged_settings]
  exact Config.settles_build (.inr ⟨hroot, rfl⟩)

end CommandLine

namespace Config

open CommandLine (Arguments asked configOf fileOptions workingDirectory)

/--
Whatever the settings and their order, the last word on each field counts, and its default where
there is none. What that comes to is the configuration if it is valid, and else the first check
that it fails is reported. So it is with the settings of the command line, where an argument goes
over the options file and the options file over the default.
-/
theorem last_word_counts :
    (∀ (base root : Path) (settings : List Setting) (wd : Except SystemError Path),
      Field.projectRoot.last settings = some root ∨
        Field.projectRoot.last settings = none ∧ wd = .ok root →
      Settles (merged base root settings)
        ((Draft.setAll { baseDir := base } settings).build wd)) ∧
    ∀ (a : Arguments) (directory : Path) (d : Disk) (file : Option Options),
      fileOptions a d = .ok file →
      Settles (asked a file directory (workingDirectory d)) (configOf a directory d) :=
  ⟨fun _ _ _ _ hroot => settles_build hroot,
    fun _ _ _ _ hfile => CommandLine.settles_configOf hfile⟩

/-! ## An options file between the settings -/

/-- An options file in the middle: it has the last word on two fields, and none on the rest. -/
def teamSettings : List Setting :=
  [.ignoreFile ⟨"lists/skip"⟩, .concurrency 3, .remark "Now.", .pattern "lib/*.js",
    .options { concurrency := some 4, remark := some "Later." }, .projectRoot ⟨"/work"⟩,
    .pattern "src/**"]

/-- What an options file says of three fields. -/
def teamText : String := "concurrency: 4\nprefix: Later.\nverbose: false\n"

def teamOptions : Options where
  concurrency := some 4
  remark := some "Later."
  verbose := some false

/-- Nothing but an options file. -/
def teamDisk : Disk where
  entries := [(["team.yaml"], .file teamText.toUTF8 false)]
  workingDirectory := ["work"]

/-- Three arguments, one of them on a field that the options file is silent on. -/
def teamArguments : Arguments where
  optionsFile := some ⟨"/team.yaml"⟩
  pattern := some "src/**"
  concurrency := some 0
  verbose := some ()

theorem fileOptions_teamDisk : fileOptions teamArguments teamDisk = .ok (some teamOptions) := by
  have hresolve : teamDisk.resolve ⟨"/team.yaml"⟩ = .ok ["team.yaml"] := by
    simp only [Disk.resolve, Disk.locate]
    simp [Disk.walk, teamDisk, Disk.piecesOf, Text.pieces, Disk.startOf, Path.isAbsolute,
      Component.ofPiece?, Disk.kind?, Disk.entryAt?, Entry.kind]
    rfl
  have hentry : teamDisk.entryAt? ["team.yaml"] = some (.file teamText.toUTF8 false) := rfl
  have htext : Utf8.decode? teamText.toUTF8 = some teamText := by decide
  have hcontent : teamDisk.readText ⟨"/team.yaml"⟩ = .ok teamText := by
    simp only [Disk.readText, Disk.readBytes, Disk.readFile, hresolve, hentry, Except.map, htext]
  have hread : Options.read teamText = .ok teamOptions := by decide +kernel
  have hload : Options.load teamDisk ⟨"/team.yaml"⟩ = .ok teamOptions := by
    simp only [Options.load, hcontent, hread, Except.mapError]
  exact congrArg (Except.map some) hload

/-- The root may be set behind the ignore file; a flag may fail where the options file would do. -/
theorem last_word_counts_team :
    (Draft.setAll { baseDir := ⟨"src"⟩ } teamSettings).build (.error .notFound) =
      .ok ⟨⟨"src"⟩, ⟨"/work"⟩, ⟨"/work/lists/skip"⟩, "src/**", 4, "Later.", false, false⟩ ∧
    fileOptions teamArguments teamDisk = .ok (some teamOptions) ∧
    configOf teamArguments ⟨"src"⟩ teamDisk = .error (.config .zeroConcurrency) := by
  refine ⟨?_, fileOptions_teamDisk, ?_⟩
  · have hvalid : (merged ⟨"src"⟩ ⟨"/work"⟩ teamSettings).validate
        = .ok (merged ⟨"src"⟩ ⟨"/work"⟩ teamSettings) := by decide +kernel
    exact ((last_word_counts.1 ⟨"src"⟩ ⟨"/work"⟩ teamSettings _ (.inl rfl)).ok_iff _).2
      ⟨rfl, (validate_eq_ok.1 hvalid).2⟩
  · exact ((last_word_counts.2 _ ⟨"src"⟩ _ _ fileOptions_teamDisk).error_iff _).2
      (.zeroConcurrency (by decide) rfl)

end Config
end BulkSuppress
