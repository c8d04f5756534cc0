import Mathlib.Data.List.Sort
import BulkSuppress.Proofs.Discovery.Spelling

/-
  One directory as the base, written in two ways. On a disk without links both lead to the same
  place, and discovery goes over the same entries (`resolve_resolveBase`, `mem_discovered_iff`).
  What is selected and pruned depends on the names that are judged, so that the two bases find the
  same files when both show the place (`discover_by_place`). A base that climbs need not: then a
  file is excluded by one name of its directory and not by the other (`discover_by_spelling`).

  A longer way to write the base makes for longer paths, of which the system takes some only. Hence
  `Spans` in what is said about all files.
-/

namespace BulkSuppress.Discoverer

open BulkSuppress.Path (IsName)

variable {s t : Discoverer} {d : Disk} {root base p : Path} {here : Location} {ns : List String}
  {files others : List Path}

/-! ## What two spellings discover -/

/-- No entry of the directory has a path below the base that is too long for the system. -/
def Spans (s : Discoverer) (d : Disk) (here : Location) : Prop :=
  ∀ e ∈ d.entries, here <+: e.1 →
    (s.base.below (e.1.drop here.length)).text.utf8ByteSize ≤ Disk.pathLimit

theorem mem_discovered_iff (hbase : d.resolve s.base = .ok here)
    (hdir : d.isDirectoryAt here = true) (hlinks : d.LinkFree []) (hnames : d.WellNamed)
    (hn : ∀ n ∈ ns, IsName n) (h : (s.discover d).value = .ok files)
    (hfile : d.isFile (s.base.below ns) = true) :
    s.base.below ns ∈ files ↔ s.selects (s.base.below ns) = true ∧
      ∀ pre, IsAbove pre ns → s.prunes (s.base.below pre) = false := by
  have hbelow : d.LinkFree here := fun ms target => hlinks (here ++ ms) target
  rw [discover_value hbase hdir] at h
  rw [← Except.ok.inj h, List.mem_filter, List.mem_filter,
    mem_candidates_iff hbase hdir hbelow hnames hn hfile, and_iff_left hfile, and_comm]

/-- The two differ at most in how they name their base, the directory `here`. -/
structure Alike (s t : Discoverer) (d : Disk) (here : Location) : Prop where
  projectRoot : s.projectRoot = t.projectRoot
  selection : s.selection = t.selection
  filter : s.filter = t.filter
  left : d.resolve s.base = .ok here
  right : d.resolve t.base = .ok here
  isDirectory : d.isDirectoryAt here = true

theorem Alike.symm (h : Alike s t d here) : Alike t s d here :=
  ⟨h.projectRoot.symm, h.selection.symm, h.filter.symm, h.right, h.left, h.isDirectory⟩

/-- Two bases of one directory discover the same of what they judge alike. -/
theorem Alike.mem_discovered_iff (h : Alike s t d here) (hlinks : d.LinkFree [])
    (hnames : d.WellNamed) (hs : (s.discover d).value = .ok files)
    (ht : (t.discover d).value = .ok others) (hn : ∀ n ∈ ns, IsName n)
    (hfile : d.isFile (s.base.below ns) = true) (hfile' : d.isFile (t.base.below ns) = true)
    (hjudged : ∀ pre, pre <+: ns →
      s.judgedNames (s.base.below pre) = t.judgedNames (t.base.below pre)) :
    s.base.below ns ∈ files ↔ t.base.below ns ∈ others := by
  have hselects : s.selects (s.base.below ns) = t.selects (t.base.below ns) := by
    rw [selects_below hn, selects_below hn, hjudged ns (List.prefix_refl ns), h.selection, h.filter]
  have hprunes (pre : List String) (habove : IsAbove pre ns) :
      s.prunes (s.base.below pre) = t.prunes (t.base.below pre) := by
    obtain ⟨-, rest, -, rfl⟩ := habove
    have hpre : ∀ n ∈ pre, IsName n := fun n hm => hn n (List.mem_append_left _ hm)
    rw [prunes_below hpre, prunes_below hpre, hjudged pre (List.prefix_append _ _), h.filter]
  rw [Discoverer.mem_discovered_iff h.left h.isDirectory hlinks hnames hn hs hfile,
    Discoverer.mem_discovered_iff h.right h.isDirectory hlinks hnames hn ht hfile', hselects]
  exact and_congr_right fun _ => forall_congr' fun pre => forall_congr' fun habove => by
    rw [hprunes pre habove]

/-- What is discovered below a base settles to the place of the base and the names from there. -/
theorem exists_below_of_mem_discovered (hnames : d.WellNamed)
    (h : (s.discover d).value = .ok files) (hp : p ∈ files) :
    ∃ ns, (∀ n ∈ ns, IsName n) ∧ p = s.base.below ns ∧ d.isFile p = true ∧
      ∀ wd, p.settle wd = s.base.settle wd ++ ns := by
  obtain ⟨-, ns, -, -, hns, rfl, -, hfile, -⟩ := leads_of_mem_discovered hnames h hp
  exact ⟨ns, hns, rfl, hfile, Path.settle_below hns s.base⟩

/-- Of two bases that judge by place, the one finds each file that the other one finds. -/
theorem Alike.settled_subset (h : Alike s t d here) (hlinks : d.LinkFree [])
    (hnames : d.WellNamed) (hs : (s.discover d).value = .ok files)
    (ht : (t.discover d).value = .ok others) (hplace : s.JudgesByPlace here)
    (hplace' : t.JudgesByPlace here) (hspans : t.Spans d here) :
    files.map (·.settle d.workingDirectory) ⊆ others.map (·.settle d.workingDirectory) := by
  intro loc hloc
  obtain ⟨p, hp, rfl⟩ := List.mem_map.1 hloc
  obtain ⟨ns, hn, rfl, hfile, hsettle⟩ := exists_below_of_mem_discovered hnames hs hp
  obtain ⟨loc, content, x, hloc, hentry⟩ := entry_of_isFile hfile
  obtain ⟨rfl, -⟩ := Disk.resolve_below h.left (fun ms => hlinks (here ++ ms)) hn hloc
  have hne : here ++ ns ≠ [] := fun hnil => by
    rw [hnil] at hentry
    cases hentry
  have hsize := hspans _ (Disk.mem_entries hentry hne) (List.prefix_append _ _)
  rw [List.drop_left] at hsize
  have hfile' := Disk.isFile_below_congr hlinks h.left h.right hn hsize hfile
  have hmem : t.base.below ns ∈ others := by
    refine (h.mem_discovered_iff hlinks hnames hs ht hn hfile hfile' fun pre hpre => ?_).1 hp
    have hpren : ∀ n ∈ pre, IsName n := fun n hm => hn n (hpre.subset hm)
    rw [hplace pre hpren, hplace' pre hpren, h.projectRoot]
  refine List.mem_map.2 ⟨_, hmem, ?_⟩
  rw [hsettle, Path.settle_below hn, ← Disk.eq_settle_of_resolve hlinks h.left,
    ← Disk.eq_settle_of_resolve hlinks h.right]

/-- Locations in order are told by what they are. -/
theorem eq_of_ordered {ls ms : List Location}
    (hl : ls.Pairwise fun l m => List.compareLex Ord.compare l m = .lt)
    (hm : ms.Pairwise fun l m => List.compareLex Ord.compare l m = .lt)
    (h : ∀ loc, loc ∈ ls ↔ loc ∈ ms) : ls = ms := by
  have hirrefl : Std.Irrefl fun l m : Location => List.compareLex Ord.compare l m = .lt :=
    ⟨fun l hlt => absurd (Std.ReflCmp.compare_self.symm.trans hlt) nofun⟩
  have hantisymm : Std.Antisymm fun l m : Location => List.compareLex Ord.compare l m = .lt :=
    ⟨fun l m hlt hgt => absurd hgt (Std.OrientedCmp.not_lt_of_lt hlt)⟩
  exact hl.eq_of_mem_iff hm h

/-- What is discovered stays in order when it is settled. -/
theorem ordered_settled (hnames : d.WellNamed) (hd : d.Distinct)
    (h : (s.discover d).value = .ok files) (wd : Location) :
    (files.map (·.settle wd)).Pairwise fun l m => List.compareLex Ord.compare l m = .lt := by
  refine List.pairwise_map.2 ((pairwise_discovered hnames hd h).imp_of_mem ?_)
  intro p q hp hq hlt
  obtain ⟨ns, hns, rfl, -, hp'⟩ := exists_below_of_mem_discovered hnames h hp
  obtain ⟨ms, hms, rfl, -, hq'⟩ := exists_below_of_mem_discovered hnames h hq
  rwa [hp', hq', Path.compareLex_append_left, ← Path.compare_below hns hms]

/-- Two bases of one directory that judge by place find the same files. -/
theorem Alike.map_settle_eq (h : Alike s t d here) (hlinks : d.LinkFree []) (hnames : d.WellNamed)
    (hd : d.Distinct) (hs : (s.discover d).value = .ok files)
    (ht : (t.discover d).value = .ok others) (hplace : s.JudgesByPlace here)
    (hplace' : t.JudgesByPlace here) (hspans : s.Spans d here) (hspans' : t.Spans d here) :
    files.map (·.settle d.workingDirectory) = others.map (·.settle d.workingDirectory) := by
  refine eq_of_ordered (ordered_settled hnames hd hs _) (ordered_settled hnames hd ht _)
    fun loc => ⟨fun hloc => ?_, fun hloc => ?_⟩
  · exact h.settled_subset hlinks hnames hs ht hplace hplace' hspans' hloc
  · exact h.symm.settled_subset hlinks hnames ht hs hplace' hplace hspans hloc

/-! ## Two spellings of a base -/

theorem value_of_make {pattern : String} {ignore : List String} {glob : Glob}
    {made : Logged Discoverer} (hpattern : Glob.parse (Glob.normalizeSource pattern) = .ok glob)
    (h : make base pattern root ignore = .ok made) :
    made.value = ⟨resolveBase root base, root, glob,
      (Exclusion.Filter.default.addValid ignore).value⟩ := by
  simp only [make, hpattern] at h
  rw [← Except.ok.inj h]
  rfl

/-- Behind a plain project root, a base leads to what it settles to from there. -/
theorem resolve_resolveBase (hroot : root.IsPlain) (hlinks : d.LinkFree [])
    (hdir : d.isDirectory (resolveBase root base) = true) :
    d.resolve (resolveBase root base) = .ok (base.settle root.names) ∧
      d.isDirectoryAt (base.settle root.names) = true := by
  obtain ⟨loc, hloc, hdir⟩ := isDirectory_iff.1 hdir
  have hplace := Disk.eq_settle_of_resolve hlinks hloc
  rw [settle_resolveBase, hroot.settle] at hplace
  exact ⟨hplace ▸ hloc, hplace ▸ hdir⟩

theorem judgesByPlace_resolveBase (hroot : root.IsPlain) (hproject : s.projectRoot = root)
    (hbase : s.base = resolveBase root base) :
    s.JudgesByPlace (base.settle root.names) ↔ s.ShowsPlace (base.settle root.names) := by
  subst hproject
  obtain ⟨cs, hcs, hcomp, -⟩ := exists_steps_resolveBase hroot base
  rw [← hbase] at hcomp
  have h := judgesByPlace_iff hroot hcomp hcs
  rwa [hbase, settle_resolveBase, hroot.settle] at h

theorem showsPlace_of_not_climbing (hroot : root.IsPlain) (hbase : s.base = resolveBase root base)
    (h : .parent ∉ base.components) (here : Location) : s.ShowsPlace here := by
  obtain ⟨cs, -, hcomp, hparent⟩ := exists_steps_resolveBase hroot base
  refine .inl fun hmem => h (hparent.1 ?_)
  rw [hbase, hcomp] at hmem
  simpa using hmem

/-- What is discovered leads to where its path settles. -/
theorem resolve_eq_settle_of_mem_discovered (hlinks : d.LinkFree []) (hnames : d.WellNamed)
    (h : (s.discover d).value = .ok files) (hp : p ∈ files) :
    d.resolve p = .ok (p.settle d.workingDirectory) := by
  obtain ⟨-, -, -, hfile, -⟩ := exists_below_of_mem_discovered hnames h hp
  obtain ⟨loc, -, -, hloc, -⟩ := entry_of_isFile hfile
  rw [hloc, Disk.eq_settle_of_resolve hlinks hloc]

/--
Two bases that settle to the same directory from a plain project root, on a disk without links.
Each judges what is below it by its place exactly if it shows the place, as it does unless it
climbs. Both find a file or neither does if they judge it and the directories above it alike, and
they find the same files if both show the place.
-/
theorem discover_by_place {root b c : Path} {pattern : String} (ignore : List String)
    {glob : Glob} {d : Disk} (hpattern : Glob.parse (Glob.normalizeSource pattern) = .ok glob)
    (hroot : root.IsPlain) (hlinks : d.LinkFree []) (hnames : d.WellNamed) (hd : d.Distinct)
    (hdirb : d.isDirectory (resolveBase root b) = true)
    (hdirc : d.isDirectory (resolveBase root c) = true)
    (hsame : b.settle root.names = c.settle root.names) :
    ∃ s t files others, make b pattern root ignore = .ok s ∧ make c pattern root ignore = .ok t ∧
      (s.value.discover d).value = .ok files ∧ (t.value.discover d).value = .ok others ∧
      (∀ p ∈ files ++ others, d.resolve p = .ok (p.settle d.workingDirectory)) ∧
      (s.value.JudgesByPlace (b.settle root.names) ↔ s.value.ShowsPlace (b.settle root.names)) ∧
      (t.value.JudgesByPlace (b.settle root.names) ↔ t.value.ShowsPlace (b.settle root.names)) ∧
      (.parent ∉ b.components → s.value.ShowsPlace (b.settle root.names)) ∧
      (.parent ∉ c.components → t.value.ShowsPlace (b.settle root.names)) ∧
      (∀ ns, (∀ n ∈ ns, IsName n) →
        d.isFile (s.value.base.below ns) = true → d.isFile (t.value.base.below ns) = true →
        (∀ pre, pre <+: ns → s.value.judgedNames (s.value.base.below pre)
          = t.value.judgedNames (t.value.base.below pre)) →
        (s.value.base.below ns ∈ files ↔ t.value.base.below ns ∈ others)) ∧
      (s.value.ShowsPlace (b.settle root.names) → t.value.ShowsPlace (b.settle root.names) →
        s.value.Spans d (b.settle root.names) → t.value.Spans d (b.settle root.names) →
        files.map (·.settle d.workingDirectory) = others.map (·.settle d.workingDirectory)) := by
  have hmake (base : Path) : ∃ s, make base pattern root ignore = .ok s :=
    ⟨_, by simp only [make, hpattern]; rfl⟩
  obtain ⟨s, hs⟩ := hmake b
  obtain ⟨t, ht⟩ := hmake c
  have hsval := value_of_make hpattern hs
  have htval := value_of_make hpattern ht
  have hbase : s.value.base = resolveBase root b := by rw [hsval]
  have hbase' : t.value.base = resolveBase root c := by rw [htval]
  have hproject : s.value.projectRoot = root := by rw [hsval]
  have hproject' : t.value.projectRoot = root := by rw [htval]
  obtain ⟨hresolve, hdir⟩ := resolve_resolveBase hroot hlinks hdirb
  obtain ⟨hresolve', -⟩ := resolve_resolveBase hroot hlinks hdirc
  rw [← hbase] at hresolve
  rw [← hbase', ← hsame] at hresolve'
  have halike : Alike s.value t.value d (b.settle root.names) :=
    ⟨hproject.trans hproject'.symm, by rw [hsval, htval], by rw [hsval, htval], hresolve,
      hresolve', hdir⟩
  obtain ⟨files, hfiles⟩ : ∃ files, (s.value.discover d).value = .ok files :=
    ⟨_, discover_value hresolve hdir⟩
  obtain ⟨others, hothers⟩ : ∃ others, (t.value.discover d).value = .ok others :=
    ⟨_, discover_value hresolve' hdir⟩
  have hjudges := judgesByPlace_resolveBase hroot hproject hbase
  have hjudges' := judgesByPlace_resolveBase hroot hproject' hbase'
  rw [← hsame] at hjudges'
  refine ⟨s, t, files, others, hs, ht, hfiles, hothers, ?_, hjudges, hjudges', ?_, ?_, ?_, ?_⟩
  · intro p hp
    rcases List.mem_append.1 hp with hp | hp
    · exact resolve_eq_settle_of_mem_discovered hlinks hnames hfiles hp
    · exact resolve_eq_settle_of_mem_discovered hlinks hnames hothers hp
  · exact fun hclimb => showsPlace_of_not_climbing hroot hbase hclimb _
  · exact fun hclimb => showsPlace_of_not_climbing hroot hbase' hclimb _
  · exact fun ns hn => halike.mem_discovered_iff hlinks hnames hfiles hothers hn
  · exact fun hshows hshows' => halike.map_settle_eq hlinks hnames hd hfiles hothers
      (hjudges.2 hshows) (hjudges'.2 hshows')

/-! ## One directory by two names -/

/-- A project and a source directory, and beside them a library with a file. -/
def libraryDisk : Disk where
  entries := [(["app"], .directory), (["lib"], .directory), (["lib", "a.js"], .file .empty false),
    (["src"], .directory)]

theorem linkFree_libraryDisk : libraryDisk.LinkFree [] :=
  Disk.linkFree_of_entries (by simp [libraryDisk, Entry.kind]) []

theorem wellNamed_libraryDisk : libraryDisk.WellNamed := by
  simp only [Disk.WellNamed, libraryDisk]
  decide

theorem distinct_libraryDisk : libraryDisk.Distinct := by
  simp only [Disk.Distinct, libraryDisk]
  decide

theorem resolve_libraryDisk : libraryDisk.resolve ⟨"/lib"⟩ = .ok ["lib"] ∧
    libraryDisk.resolve ⟨"/lib/a.js"⟩ = .ok ["lib", "a.js"] ∧
    libraryDisk.resolve ⟨"/src/../lib"⟩ = .ok ["lib"] ∧
    libraryDisk.resolve ⟨"/src/../lib/a.js"⟩ = .ok ["lib", "a.js"] := by
  simp only [Disk.resolve, Disk.locate]
  simp [Disk.walk, libraryDisk, Disk.piecesOf, Text.pieces, Disk.startOf, Path.isAbsolute,
    Component.ofPiece?, Disk.kind?, Disk.entryAt?, Entry.kind, List.lookup_cons]
  exact ⟨rfl, rfl, rfl, rfl⟩

theorem isFile_libraryDisk : libraryDisk.isFile ⟨"/lib"⟩ = false ∧
    libraryDisk.isFile ⟨"/lib/a.js"⟩ = true ∧ libraryDisk.isFile ⟨"/src/../lib"⟩ = false ∧
    libraryDisk.isFile ⟨"/src/../lib/a.js"⟩ = true := by
  simp only [Disk.isFile, Disk.stat?, resolve_libraryDisk]
  exact ⟨rfl, rfl, rfl, rfl⟩

theorem isDirectory_libraryDisk : libraryDisk.isDirectory ⟨"/lib"⟩ = true ∧
    libraryDisk.isDirectory ⟨"/src/../lib"⟩ = true :=
  ⟨isDirectory_iff.2 ⟨_, resolve_libraryDisk.1, rfl⟩,
    isDirectory_iff.2 ⟨_, resolve_libraryDisk.2.2.1, rfl⟩⟩

theorem children_libraryDisk : libraryDisk.children ["lib"] = ["a.js"] := by
  simp [Disk.children, libraryDisk, Disk.childName?]

/-- Seen from a project beside it, the library is the same by either name. -/
theorem discover_by_place_library :
    Glob.parse (Glob.normalizeSource "**/*.js") =
        .ok ⟨"**/*.js", [.anyPath, .anySequence, .literal '.', .literal 'j', .literal 's']⟩ ∧
      Path.IsPlain ⟨"/app"⟩ ∧ libraryDisk.LinkFree [] ∧ libraryDisk.WellNamed ∧
      libraryDisk.Distinct ∧ libraryDisk.isDirectory (resolveBase ⟨"/app"⟩ ⟨"/lib"⟩) = true ∧
      libraryDisk.isDirectory (resolveBase ⟨"/app"⟩ ⟨"/src/../lib"⟩) = true ∧
      Path.settle ⟨"/lib"⟩ ["app"] = Path.settle ⟨"/src/../lib"⟩ ["app"] ∧
      ∃ s t files others, make ⟨"/lib"⟩ "**/*.js" ⟨"/app"⟩ ["/a.js"] = .ok s ∧
        make ⟨"/src/../lib"⟩ "**/*.js" ⟨"/app"⟩ ["/a.js"] = .ok t ∧
        (s.value.discover libraryDisk).value = .ok files ∧
        (t.value.discover libraryDisk).value = .ok others ∧
        files.map (·.settle []) = others.map (·.settle []) := by
  have hbase : resolveBase ⟨"/app"⟩ ⟨"/lib"⟩ = ⟨"/lib"⟩ := by decide
  have hbase' : resolveBase ⟨"/app"⟩ ⟨"/src/../lib"⟩ = ⟨"/src/../lib"⟩ := by decide
  have hdir : libraryDisk.isDirectory (resolveBase ⟨"/app"⟩ ⟨"/lib"⟩) = true :=
    hbase ▸ isDirectory_libraryDisk.1
  have hdir' : libraryDisk.isDirectory (resolveBase ⟨"/app"⟩ ⟨"/src/../lib"⟩) = true :=
    hbase' ▸ isDirectory_libraryDisk.2
  have hroot : Path.IsPlain ⟨"/app"⟩ := by decide
  have hsame : Path.settle ⟨"/lib"⟩ (Path.names ⟨"/app"⟩)
      = Path.settle ⟨"/src/../lib"⟩ (Path.names ⟨"/app"⟩) := by decide
  have hhere : Path.settle ⟨"/lib"⟩ (Path.names ⟨"/app"⟩) = ["lib"] := by decide
  obtain ⟨s, t, files, others, hs, ht, hfiles, hothers, -, -, -, hshows, -, -, hall⟩ :=
    discover_by_place ["/a.js"] parse_scripts hroot linkFree_libraryDisk wellNamed_libraryDisk
      distinct_libraryDisk hdir hdir' hsame
  have hshows' : t.value.ShowsPlace (Path.settle ⟨"/lib"⟩ (Path.names ⟨"/app"⟩)) := by
    rw [ShowsPlace, value_of_make parse_scripts ht, hbase', hhere]
    decide
  have hspans : s.value.Spans libraryDisk (Path.settle ⟨"/lib"⟩ (Path.names ⟨"/app"⟩)) := by
    rw [Spans, value_of_make parse_scripts hs, hbase, hhere]
    simp only [libraryDisk]
    decide
  have hspans' : t.value.Spans libraryDisk (Path.settle ⟨"/lib"⟩ (Path.names ⟨"/app"⟩)) := by
    rw [Spans, value_of_make parse_scripts ht, hbase', hhere]
    simp only [libraryDisk]
    decide
  exact ⟨parse_scripts, hroot, linkFree_libraryDisk, wellNamed_libraryDisk, distinct_libraryDisk,
    hdir, hdir', hsame, s, t, files, others, hs, ht, hfiles, hothers,
    hall (hshows (by decide)) hshows' hspans hspans'⟩

/-- The source files below the base, but for the one that is left out. -/
def library (base : Path) : Discoverer where
  base
  projectRoot := ⟨"/"⟩
  selection := ⟨"**/*.js", [.anyPath, .anySequence, .literal '.', .literal 'j', .literal 's']⟩
  filter := ⟨Exclusion.Filter.default.patterns ++
    [{ source := "/lib/a.js", negated := false, dirOnly := false, wholePath := true
       glob := ⟨"lib/a.js", "lib/a.js".toList.map .literal⟩ }]⟩

theorem discover_library : ((library ⟨"/lib"⟩).discover libraryDisk).value = .ok [] ∧
    ((library ⟨"/src/../lib"⟩).discover libraryDisk).value = .ok [⟨"/src/../lib/a.js"⟩] := by
  have hdepth : depth libraryDisk = 2 := rfl
  have hcand : (library ⟨"/lib"⟩).candidates libraryDisk ["lib"]
      = [⟨"/lib"⟩, ⟨"/lib/a.js"⟩] := by
    simp only [candidates, hdepth, walk, children_libraryDisk]
    decide
  have hcand' : (library ⟨"/src/../lib"⟩).candidates libraryDisk ["lib"]
      = [⟨"/src/../lib"⟩, ⟨"/src/../lib/a.js"⟩] := by
    simp only [candidates, hdepth, walk, children_libraryDisk]
    decide
  have hsel : (library ⟨"/lib"⟩).selects ⟨"/lib/a.js"⟩ = false ∧
      (library ⟨"/src/../lib"⟩).selects ⟨"/src/../lib/a.js"⟩ = true := by decide +kernel
  rw [discover_value resolve_libraryDisk.1 rfl, hcand,
    discover_value resolve_libraryDisk.2.2.1 rfl, hcand']
  simp [isFile_libraryDisk, hsel]

/-- Seen from above, the library's file is left out by one name of the library only. -/
theorem discover_by_spelling :
    Path.IsPlain ⟨"/"⟩ ∧ libraryDisk.LinkFree [] ∧ libraryDisk.WellNamed ∧ libraryDisk.Distinct ∧
      libraryDisk.isDirectory (resolveBase ⟨"/"⟩ ⟨"lib"⟩) = true ∧
      libraryDisk.isDirectory (resolveBase ⟨"/"⟩ ⟨"src/../lib"⟩) = true ∧
      Path.settle ⟨"lib"⟩ [] = Path.settle ⟨"src/../lib"⟩ [] ∧
      ∃ s t, (make ⟨"lib"⟩ "**/*.js" ⟨"/"⟩ ["/lib/a.js"]).toOption = some s ∧
        (make ⟨"src/../lib"⟩ "**/*.js" ⟨"/"⟩ ["/lib/a.js"]).toOption = some t ∧
        (s.value.discover libraryDisk).value = .ok [] ∧
        (t.value.discover libraryDisk).value = .ok [⟨"/src/../lib/a.js"⟩] := by
  have hbase : resolveBase ⟨"/"⟩ ⟨"lib"⟩ = ⟨"/lib"⟩ := by decide
  have hbase' : resolveBase ⟨"/"⟩ ⟨"src/../lib"⟩ = ⟨"/src/../lib"⟩ := by decide
  refine ⟨by decide, linkFree_libraryDisk, wellNamed_libraryDisk, distinct_libraryDisk,
    hbase ▸ isDirectory_libraryDisk.1, hbase' ▸ isDirectory_libraryDisk.2, by decide,
    ⟨library ⟨"/lib"⟩, []⟩, ⟨library ⟨"/src/../lib"⟩, []⟩, by decide +kernel, by decide +kernel, ?_⟩
  exact discover_library

end BulkSuppress.Discoverer
