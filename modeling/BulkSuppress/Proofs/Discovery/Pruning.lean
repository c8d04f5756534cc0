import BulkSuppress.Proofs.Discovery.Walk
import BulkSuppress.Proofs.Exclusion.Directory

/-
  What pruning costs discovery. A directory is pruned by the judgement on one path in it, the
  probe's. That judgement tells about everything else in the directory unless the two are seen
  from different places or a pattern singles the probe out (`misjudges_of_prunes`).
-/

namespace BulkSuppress.Discoverer

open BulkSuppress.Path (IsName)

/-- The names that the exclusion filter judges a path below the base by. -/
def judgedNames (s : Discoverer) (p : Path) : List String :=
  match p.stripPrefix? s.base with
  | none => []
  | some fromBase => (s.exclusionPath p fromBase).names

/-- The path is seen from the project root, and the directory above it from the base. -/
def straddles (s : Discoverer) (dir p : Path) : Bool :=
  (dir.stripPrefix? s.projectRoot).isNone && (p.stripPrefix? s.projectRoot).isSome

/-- What the filter says about the probe in the directory need not hold for the path in it. -/
def misjudges (s : Discoverer) (dir p : Path) : Bool :=
  s.straddles dir p || s.filter.singlesOut (s.judgedNames dir) probe

variable {s : Discoverer} {d : Disk} {loc : Location} {ns pre rest : List String}

theorem isName_probe : IsName probe := by decide

theorem exists_fromBase (s : Discoverer) (hn : ∀ n ∈ ns, IsName n) :
    ∃ q, (s.base.below ns).stripPrefix? s.base = some q ∧ q.names = ns := by
  obtain ⟨q, hq, hnil⟩ := Path.exists_stripPrefix?_self s.base
  obtain ⟨r, hr, hnames⟩ := Path.exists_stripPrefix?_below hn hq
  exact ⟨r, hr, by rw [hnames, hnil, List.nil_append]⟩

theorem judgedNames_below (hn : ∀ n ∈ ns, IsName n) :
    s.judgedNames (s.base.below ns)
      = (((s.base.below ns).stripPrefix? s.projectRoot).map Path.names).getD ns := by
  obtain ⟨q, hq, hnames⟩ := s.exists_fromBase hn
  rw [judgedNames, hq]
  unfold exclusionPath
  cases (s.base.below ns).stripPrefix? s.projectRoot with
  | none => exact hnames
  | some r => rfl

/-- What lies in a directory is judged by the names of the directory and its own. -/
theorem judgedNames_append (hn : ∀ n ∈ pre ++ rest, IsName n)
    (h : s.straddles (s.base.below pre) (s.base.below (pre ++ rest)) = false) :
    s.judgedNames (s.base.below (pre ++ rest)) = s.judgedNames (s.base.below pre) ++ rest := by
  have hpre : ∀ n ∈ pre, IsName n := fun n hm => hn n (List.mem_append_left _ hm)
  have hrest : ∀ n ∈ rest, IsName n := fun n hm => hn n (List.mem_append_right _ hm)
  rw [judgedNames_below hn, judgedNames_below hpre]
  cases hdir : (s.base.below pre).stripPrefix? s.projectRoot with
  | none =>
    have hfile : (s.base.below (pre ++ rest)).stripPrefix? s.projectRoot = none := by
      simpa [straddles, hdir] using h
    rw [hfile]
    rfl
  | some q =>
    obtain ⟨r, hr, hnames⟩ := Path.exists_stripPrefix?_below hrest hdir
    rw [Path.below_append, hr]
    exact hnames

/-- A path below the base is selected by its names from there and the names it is judged by. -/
theorem selects_below (hn : ∀ n ∈ ns, IsName n) : s.selects (s.base.below ns)
    = (s.selection.isMatch true (Path.slashed ns) &&
        !s.filter.excludesNames (s.judgedNames (s.base.below ns))) := by
  obtain ⟨q, hq, hnames⟩ := s.exists_fromBase hn
  rw [selects, judgedNames, hq, ← hnames]
  rfl

/-- A directory below the base is pruned by the names it is judged by. -/
theorem prunes_below (hn : ∀ n ∈ pre, IsName n) : s.prunes (s.base.below pre)
    = (!s.filter.hasNegations &&
        (s.filter.excludesNames (s.judgedNames (s.base.below pre) ++ [probe]) &&
          !s.filter.excludesNames [probe])) := by
  obtain ⟨q, hq, -⟩ := s.exists_fromBase hn
  rw [prunes, excludesDirectory, judgedNames, hq]
  simp only [Exclusion.Filter.excludes, Path.names_child isName_probe]
  rfl

theorem excludesNames_of_prunes (hn : ∀ n ∈ pre, IsName n)
    (h : s.prunes (s.base.below pre) = true) :
    s.filter.hasNegations = false ∧
      s.filter.excludesNames (s.judgedNames (s.base.below pre) ++ [probe]) = true ∧
      s.filter.excludesNames [probe] = false := by
  rwa [prunes_below hn, Bool.and_eq_true, Bool.and_eq_true, Bool.not_eq_true',
    Bool.not_eq_true'] at h

/-- A selected path is not excluded by the names it is judged by. -/
theorem excludesNames_of_selects {p : Path} (h : s.selects p = true) :
    s.filter.excludesNames (s.judgedNames p) = false := by
  unfold selects at h
  unfold judgedNames
  cases hp : p.stripPrefix? s.base with
  | none => simp [hp] at h
  | some fromBase =>
    simp only [hp, Bool.and_eq_true, Bool.not_eq_true'] at h
    exact h.2

/-- Whoever prunes a directory above a selected path misjudges it. -/
theorem misjudges_of_prunes (hn : ∀ n ∈ ns, IsName n) (habove : IsAbove pre ns)
    (hprune : s.prunes (s.base.below pre) = true) (hsel : s.selects (s.base.below ns) = true) :
    s.misjudges (s.base.below pre) (s.base.below ns) = true := by
  obtain ⟨-, rest, hrest, rfl⟩ := habove
  have hpre : ∀ n ∈ pre, IsName n := fun n hm => hn n (List.mem_append_left _ hm)
  obtain ⟨hneg, hdir, hown⟩ := excludesNames_of_prunes hpre hprune
  rw [misjudges, Bool.or_eq_true, ← Bool.not_eq_false, ← Bool.not_eq_false]
  refine Decidable.or_iff_not_imp_left.2 fun hs hone => ?_
  rw [Decidable.not_not] at hs
  -- the path is judged from the same place and by a pattern that does not look at the probe
  have hex := Exclusion.Filter.excludesNames_append hneg isName_probe.1 isName_probe.2.2.2 hdir hown
    hone hrest fun m hm => (hn m (List.mem_append_right _ hm)).2.2.2
  rw [← judgedNames_append hn hs, excludesNames_of_selects hsel] at hex
  cases hex

/-! ## What is discovered -/

theorem discover_value (hbase : d.resolve s.base = .ok loc) (hdir : d.isDirectoryAt loc = true) :
    (s.discover d).value = .ok (((s.candidates d loc).filter d.isFile).filter s.selects) := by
  simp only [discover, hbase, hdir, Logged.value_bind]
  rfl

theorem entry_of_isFile {p : Path} (h : d.isFile p = true) :
    ∃ loc content x, d.resolve p = .ok loc ∧ d.entryAt? loc = some (.file content x) := by
  unfold Disk.isFile Disk.stat? at h
  cases hr : d.resolve p with
  | error e => simp [hr] at h
  | ok loc =>
    simp only [hr] at h
    split at h
    · rename_i content x he
      exact ⟨loc, content, x, rfl, he⟩
    · cases h

/-- A file below the base is considered unless a directory above it is pruned. -/
theorem mem_candidates_iff (hbase : d.resolve s.base = .ok loc)
    (hdir : d.isDirectoryAt loc = true) (hlinks : d.LinkFree loc) (hnames : d.WellNamed)
    (hn : ∀ n ∈ ns, IsName n) (hfile : d.isFile (s.base.below ns) = true) :
    s.base.below ns ∈ s.candidates d loc ↔
      ∀ pre, IsAbove pre ns → s.prunes (s.base.below pre) = false := by
  obtain ⟨loc', content, x, hres, hentry⟩ := entry_of_isFile hfile
  obtain ⟨rfl, hleads⟩ := Disk.resolve_below hbase hlinks hn hres
  have hleaf : d.isDirectoryAt (loc ++ ns) = false := by
    simp [Disk.isDirectoryAt, Disk.kind?, hentry, Entry.kind]
  have hne : ns ≠ [] := by
    rintro rfl
    rw [List.append_nil, hdir] at hleaf
    cases hleaf
  rw [candidates, List.mem_cons]
  constructor
  · rintro (h | h)
    · exact absurd (Path.below_inj hn (fun m hm => by cases hm) h) hne
    · obtain ⟨ms, hms, hnamed, hskip⟩ := exists_of_mem_walk h
      have hm : ∀ m ∈ ms, IsName m := fun m hm => by
        obtain ⟨e, he, hmem⟩ := hnamed m hm
        exact hnames e he m hmem
      rwa [Path.below_inj hn hm hms]
  · intro hskip
    have hmem := Disk.mem_entries hentry (List.append_ne_nil_of_right_ne_nil _ hne)
    have hlen : ns.length ≤ depth d := by
      have := length_le_depth hmem
      rw [List.length_append] at this
      exact Nat.le_trans (Nat.le_add_left _ _) this
    exact .inr (mem_walk hne hlen hleads hleaf hskip)

/--
On a base directory without links, discovery gives regular files that are selected, and finds
such a file unless a directory above it is pruned by a misjudgement. Nothing else prunes a
directory above a selected path.
-/
theorem discover_complete_iff (hbase : d.resolve s.base = .ok loc)
    (hdir : d.isDirectoryAt loc = true) (hlinks : d.LinkFree loc) (hnames : d.WellNamed) :
    ∃ files, (s.discover d).value = .ok files ∧
      (∀ p ∈ files, d.isFile p = true ∧ s.selects p = true) ∧
      ∀ ns, (∀ n ∈ ns, IsName n) → d.isFile (s.base.below ns) = true →
        s.selects (s.base.below ns) = true →
        (s.base.below ns ∈ files ↔ ¬ ∃ pre, IsAbove pre ns ∧
          s.prunes (s.base.below pre) = true ∧
          s.misjudges (s.base.below pre) (s.base.below ns) = true) ∧
        ∀ pre, IsAbove pre ns → s.prunes (s.base.below pre) = true →
          s.misjudges (s.base.below pre) (s.base.below ns) = true := by
  refine ⟨_, discover_value hbase hdir, fun p hp => ?_, fun ns hn hfile hsel => ⟨?_, ?_⟩⟩
  · rw [List.mem_filter, List.mem_filter] at hp
    exact ⟨hp.1.2, hp.2⟩
  · rw [List.mem_filter, List.mem_filter, mem_candidates_iff hbase hdir hlinks hnames hn hfile]
    constructor
    · rintro ⟨⟨hskip, -⟩, -⟩ ⟨pre, habove, hprune, -⟩
      rw [hskip pre habove] at hprune
      cases hprune
    · intro hnot
      refine ⟨⟨fun pre habove => ?_, hfile⟩, hsel⟩
      rw [← Bool.not_eq_true]
      exact fun hprune => hnot ⟨pre, habove, hprune, misjudges_of_prunes hn habove hprune hsel⟩
  · exact fun pre habove hprune => misjudges_of_prunes hn habove hprune hsel

/--
Every selected file is found when the base lies in the project and no pattern for whole paths
looks at the last name.
-/
theorem discover_complete (hbase : d.resolve s.base = .ok loc) (hdir : d.isDirectoryAt loc = true)
    (hlinks : d.LinkFree loc) (hnames : d.WellNamed)
    (hproject : (s.base.stripPrefix? s.projectRoot).isSome = true)
    (huniform : s.filter.isUniform = true) :
    ∃ files, (s.discover d).value = .ok files ∧
      ∀ ns, (∀ n ∈ ns, IsName n) → d.isFile (s.base.below ns) = true →
        s.selects (s.base.below ns) = true → s.base.below ns ∈ files := by
  refine ⟨_, discover_value hbase hdir, fun ns hn hfile hsel => ?_⟩
  rw [List.mem_filter, List.mem_filter, mem_candidates_iff hbase hdir hlinks hnames hn hfile]
  refine ⟨⟨fun pre habove => ?_, hfile⟩, hsel⟩
  rw [← Bool.not_eq_true]
  intro hprune
  have hpre : ∀ n ∈ pre, IsName n := by
    obtain ⟨-, rest, -, rfl⟩ := habove
    exact fun n hm => hn n (List.mem_append_left _ hm)
  obtain ⟨q, hq⟩ := Option.isSome_iff_exists.1 hproject
  obtain ⟨r, hr, -⟩ := Path.exists_stripPrefix?_below hpre hq
  have hmis := misjudges_of_prunes hn habove hprune hsel
  simp [misjudges, straddles, hr, Exclusion.Filter.singlesOut_eq_false huniform] at hmis

/-! ## A selected file that is not found -/

/-- A directory with two source files, of which one has a name with an underscore in front. -/
def sampleDisk : Disk where
  entries := [(["src"], .directory), (["src", "a.js"], .file .empty false),
    (["src", "_b.js"], .file .empty false)]

/-- The source files of the disk, but for those in `src` with an underscore in front. -/
def sample : Discoverer where
  base := ⟨"/"⟩
  projectRoot := ⟨"/"⟩
  selection := ⟨"**/*.js", [.anyPath, .anySequence, .literal '.', .literal 'j', .literal 's']⟩
  filter := ⟨Exclusion.Filter.default.patterns ++
    [{ source := "/src/_*", negated := false, dirOnly := false, wholePath := true
       glob := ⟨"src/_*", "src/_".toList.map .literal ++ [.anySequence]⟩ }]⟩

theorem resolve_sample : sampleDisk.resolve sample.base = .ok [] := by
  simp [Disk.resolve, Disk.locate, Disk.walk, sample, Disk.piecesOf, Text.pieces, Disk.startOf,
    Path.isAbsolute, Component.ofPiece?, Disk.kind?, Disk.entryAt?, Entry.kind, Disk.pathLimit]
  decide

theorem isFile_sample : sampleDisk.isFile (sample.base.below ["src", "a.js"]) = true := by
  have hp : sample.base.below ["src", "a.js"] = ⟨"/src/a.js"⟩ := by decide
  have h : sampleDisk.resolve ⟨"/src/a.js"⟩ = .ok ["src", "a.js"] := by
    simp only [Disk.resolve, Disk.locate]
    simp [Disk.walk, sampleDisk, Disk.piecesOf, Text.pieces, Disk.startOf, Path.isAbsolute,
      Component.ofPiece?, Disk.kind?, Disk.entryAt?, Entry.kind, List.lookup_cons]
    rfl
  rw [hp, Disk.isFile, Disk.stat?, h]
  rfl

theorem linkFree_sample : sampleDisk.LinkFree [] :=
  Disk.linkFree_of_entries (by simp [sampleDisk, Entry.kind]) []

theorem wellNamed_sample : sampleDisk.WellNamed := by
  simp only [Disk.WellNamed, sampleDisk]
  decide

/-- The sample is discovered as the general statement says. -/
theorem discover_complete_iff_sample :
    sampleDisk.resolve sample.base = .ok [] ∧ sampleDisk.isDirectoryAt [] = true ∧
      sampleDisk.LinkFree [] ∧ sampleDisk.WellNamed ∧
      ∃ files, (sample.discover sampleDisk).value = .ok files ∧
        (sample.base.below ["src", "a.js"] ∈ files ↔ ¬ ∃ pre, IsAbove pre ["src", "a.js"] ∧
          sample.prunes (sample.base.below pre) = true ∧
          sample.misjudges (sample.base.below pre) (sample.base.below ["src", "a.js"]) = true) := by
  obtain ⟨files, hvalue, -, h⟩ :=
    discover_complete_iff resolve_sample rfl linkFree_sample wellNamed_sample
  exact ⟨resolve_sample, rfl, linkFree_sample, wellNamed_sample, files, hvalue,
    (h ["src", "a.js"] (by decide) isFile_sample (by decide +kernel)).1⟩

/-- A pattern for some files of a directory hides another file, which is selected. -/
theorem discover_misses_selected :
    (make ⟨"."⟩ "**/*.js" ⟨"/"⟩ ["/src/_*"]).toOption = some ⟨sample, []⟩ ∧
      sampleDisk.resolve sample.base = .ok [] ∧ sampleDisk.LinkFree [] ∧
      sampleDisk.isFile (sample.base.below ["src", "a.js"]) = true ∧
      sample.selects (sample.base.below ["src", "a.js"]) = true ∧
      ∃ files, (sample.discover sampleDisk).value = .ok files ∧
        sample.base.below ["src", "a.js"] ∉ files := by
  refine ⟨by decide +kernel, resolve_sample, linkFree_sample, isFile_sample, by decide +kernel, _,
    discover_value resolve_sample rfl, fun hmem => ?_⟩
  have hcand := (List.mem_filter.1 (List.mem_filter.1 hmem).1).1
  rw [mem_candidates_iff resolve_sample rfl linkFree_sample wellNamed_sample (by decide)
    isFile_sample] at hcand
  have hprune : sample.prunes (sample.base.below ["src"]) = true := by decide +kernel
  rw [hcand ["src"] ⟨List.cons_ne_nil _ _, ["a.js"], List.cons_ne_nil _ _, rfl⟩] at hprune
  cases hprune

/-- A directory above the project, which is judged from the base, hides the project's files. -/
example :
    let s : Discoverer := { sample with
      projectRoot := ⟨"/app/core"⟩
      filter := ⟨[{ source := "app", glob := ⟨"app", "app".toList.map .literal⟩,
                    negated := false, dirOnly := false, wholePath := false }]⟩ }
    s.prunes ⟨"/app"⟩ = true ∧ s.selects ⟨"/app/core/a.js"⟩ = true ∧
      s.straddles ⟨"/app"⟩ ⟨"/app/core/a.js"⟩ = true := by
  decide

end BulkSuppress.Discoverer
