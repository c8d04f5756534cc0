import BulkSuppress.Proofs.Discovery.Canonical

/-
  Where discovered paths lead. The walk does not follow links, so that a path that is no link
  leads to its own entry, below the base (`isOwnPath_of_mem_discovered`), and to no other path's
  (`eq_of_resolve_eq`). But whether a path is that of a file is asked of what it leads to: a link
  to a file is discovered like a file, wherever the file is, and the link's path is what the
  patterns judge. `IsLink` is the one exception in the statements here.
-/

namespace BulkSuppress.Discoverer

open BulkSuppress.Path (IsName)

variable {s : Discoverer} {d : Disk} {files : List Path} {loc : Location} {p q : Path}

/-- The path names a link below the base. -/
def IsLink (s : Discoverer) (d : Disk) (p : Path) : Prop :=
  ∃ here ns target, d.resolve s.base = .ok here ∧ (∀ n ∈ ns, IsName n) ∧ p = s.base.below ns ∧
    d.kind? (here ++ ns) = some (.link target)

/-- The entry at the location lies in directories below the base, and its own path is `p`. -/
def IsOwnPath (s : Discoverer) (d : Disk) (p : Path) (loc : Location) : Prop :=
  ∃ here ns, d.resolve s.base = .ok here ∧ ns ≠ [] ∧ (∀ n ∈ ns, IsName n) ∧ d.Leads here ns ∧
    p = s.base.below ns ∧ loc = here ++ ns

theorem IsOwnPath.eq (hp : s.IsOwnPath d p loc) (hq : s.IsOwnPath d q loc) : p = q := by
  obtain ⟨here, ns, hbase, -, -, -, rfl, rfl⟩ := hp
  obtain ⟨here', ms, hbase', -, -, -, rfl, hloc⟩ := hq
  cases hbase.symm.trans hbase'
  rw [List.append_cancel_left hloc]

/-- What is discovered leads to a file. -/
theorem isFile_of_mem_discovered (hnames : d.WellNamed) (h : (s.discover d).value = .ok files)
    (hp : p ∈ files) : ∃ loc bytes x, d.resolve p = .ok loc ∧
      d.entryAt? loc = some (.file bytes x) := by
  obtain ⟨-, -, -, -, -, -, -, hfile, -⟩ := leads_of_mem_discovered hnames h hp
  exact entry_of_isFile hfile

/-- A discovered path that is no link leads to what it is the path of. -/
theorem isOwnPath_of_mem_discovered (hnames : d.WellNamed) (h : (s.discover d).value = .ok files)
    (hp : p ∈ files) (hlink : ¬ s.IsLink d p) (hloc : d.resolve p = .ok loc) :
    s.IsOwnPath d p loc := by
  obtain ⟨here, ns, hbase, hne, hns, rfl, hleads, -, -⟩ := leads_of_mem_discovered hnames h hp
  refine ⟨here, ns, hbase, hne, hns, hleads, rfl, ?_⟩
  exact Disk.resolve_of_leads hbase hns hleads
    (fun target hk => hlink ⟨here, ns, target, hbase, hns, rfl, hk⟩) hloc

/-- Discovered paths that lead to the same file are the same, unless one of them is a link. -/
theorem eq_of_resolve_eq (hnames : d.WellNamed) (h : (s.discover d).value = .ok files)
    (hp : p ∈ files) (hq : q ∈ files) (hlinkp : ¬ s.IsLink d p) (hlinkq : ¬ s.IsLink d q)
    (hlocp : d.resolve p = .ok loc) (hlocq : d.resolve q = .ok loc) : p = q :=
  (isOwnPath_of_mem_discovered hnames h hp hlinkp hlocp).eq
    (isOwnPath_of_mem_discovered hnames h hq hlinkq hlocq)

/-! ## A disk with a link -/

/-- A library with a file, and sources that have a link to it. -/
def aliasDisk : Disk where
  entries := [(["lib"], .directory), (["lib", "a.js"], .file .empty false),
    (["src"], .directory), (["src", "a.js"], .link ⟨"../lib/a.js"⟩)]

theorem wellNamed_aliasDisk : aliasDisk.WellNamed := by
  simp only [Disk.WellNamed, aliasDisk]
  decide

theorem distinct_aliasDisk : aliasDisk.Distinct := by
  simp only [Disk.Distinct, aliasDisk]
  decide

theorem resolve_aliasDisk : aliasDisk.resolve ⟨"/lib"⟩ = .ok ["lib"] ∧
    aliasDisk.resolve ⟨"/lib/a.js"⟩ = .ok ["lib", "a.js"] ∧
    aliasDisk.resolve ⟨"/src"⟩ = .ok ["src"] ∧
    aliasDisk.resolve ⟨"/src/a.js"⟩ = .ok ["lib", "a.js"] ∧
    aliasDisk.resolve ⟨"/.eslintignore"⟩ = .error .notFound := by
  simp only [Disk.resolve, Disk.locate]
  simp [Disk.walk, aliasDisk, Disk.piecesOf, Text.pieces, Disk.startOf, Path.isAbsolute,
    Component.ofPiece?, Disk.kind?, Disk.entryAt?, Entry.kind, List.lookup_cons]
  exact ⟨rfl, rfl, rfl, rfl, rfl⟩

theorem isFile_aliasDisk : aliasDisk.isFile ⟨"/"⟩ = false ∧ aliasDisk.isFile ⟨"/lib"⟩ = false ∧
    aliasDisk.isFile ⟨"/lib/a.js"⟩ = true ∧ aliasDisk.isFile ⟨"/src"⟩ = false ∧
    aliasDisk.isFile ⟨"/src/a.js"⟩ = true := by
  simp only [Disk.isFile, Disk.stat?, Disk.resolve_root, resolve_aliasDisk]
  exact ⟨rfl, rfl, rfl, rfl, rfl⟩

theorem children_aliasDisk : aliasDisk.children [] = ["lib", "src"] ∧
    aliasDisk.children ["lib"] = ["a.js"] ∧ aliasDisk.children ["src"] = ["a.js"] := by
  simp [Disk.children, aliasDisk, Disk.childName?]
  exact List.mergeSort_of_pairwise (by decide)

/-- All source files below the directory, which lies in the project. -/
def sourcesBelow (dir : Path) : Discoverer where
  base := dir
  projectRoot := ⟨"/"⟩
  selection := ⟨"**/*.js", [.anyPath, .anySequence, .literal '.', .literal 'j', .literal 's']⟩
  filter := .default

theorem make_sourcesBelow (base : Path) :
    make base "**/*.js" ⟨"/"⟩ [] = .ok ⟨sourcesBelow (resolveBase ⟨"/"⟩ base), []⟩ := by
  simp only [make, parse_scripts]
  rfl

/-- From the root directory, the file and the link to it are discovered. -/
theorem discover_everything :
    ((sourcesBelow ⟨"/"⟩).discover aliasDisk).value = .ok [⟨"/lib/a.js"⟩, ⟨"/src/a.js"⟩] := by
  have hdepth : depth aliasDisk = 2 := rfl
  have hcand : (sourcesBelow ⟨"/"⟩).candidates aliasDisk []
      = [⟨"/"⟩, ⟨"/lib"⟩, ⟨"/lib/a.js"⟩, ⟨"/src"⟩, ⟨"/src/a.js"⟩] := by
    simp only [candidates, hdepth, walk, children_aliasDisk]
    decide +kernel
  have hsel : (sourcesBelow ⟨"/"⟩).selects ⟨"/lib/a.js"⟩ = true ∧
      (sourcesBelow ⟨"/"⟩).selects ⟨"/src/a.js"⟩ = true := by decide +kernel
  rw [discover_value (Disk.resolve_root _) rfl, hcand]
  simp [isFile_aliasDisk, hsel]

/-- From the sources, the one file in them is discovered. -/
theorem discover_sources_of_children {d : Disk} (hloc : d.resolve ⟨"/src"⟩ = .ok ["src"])
    (hdir : d.isDirectoryAt ["src"] = true) (hchildren : d.children ["src"] = ["a.js"])
    (hleaf : d.isDirectoryAt ["src", "a.js"] = false) (hdepth : 0 < depth d)
    (hbase : d.isFile ⟨"/src"⟩ = false) (hfile : d.isFile ⟨"/src/a.js"⟩ = true) :
    ((sourcesBelow ⟨"/src"⟩).discover d).value = .ok [⟨"/src/a.js"⟩] := by
  have hcand : (sourcesBelow ⟨"/src"⟩).candidates d ["src"] = [⟨"/src"⟩, ⟨"/src/a.js"⟩] := by
    obtain ⟨n, hn⟩ := Nat.exists_eq_succ_of_ne_zero (Nat.ne_of_gt hdepth)
    simp only [candidates, hn, walk, hchildren, List.flatMap_cons, List.flatMap_nil,
      List.append_nil, List.cons_append, List.nil_append, hleaf, Bool.false_eq_true, if_false]
    decide
  have hsel : (sourcesBelow ⟨"/src"⟩).selects ⟨"/src/a.js"⟩ = true := by decide +kernel
  rw [discover_value hloc hdir, hcand]
  simp [hbase, hfile, hsel]

/-- From the sources, the link is discovered. -/
theorem discover_sources :
    ((sourcesBelow ⟨"/src"⟩).discover aliasDisk).value = .ok [⟨"/src/a.js"⟩] :=
  discover_sources_of_children resolve_aliasDisk.2.2.1 rfl children_aliasDisk.2.2 rfl (by decide)
    isFile_aliasDisk.2.2.2.1 isFile_aliasDisk.2.2.2.2

end BulkSuppress.Discoverer
