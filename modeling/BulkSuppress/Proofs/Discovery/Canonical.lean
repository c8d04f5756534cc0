import Mathlib.Data.List.Nodup
import BulkSuppress.Proofs.Discovery.Pruning
import BulkSuppress.Proofs.Path.Order

/-
  What discovery gives, and in which order. It fails on a base that is no directory, and on no
  other, all directories being readable. Otherwise it gives files below the base that are selected,
  in the strict order of their paths (`discover_canonical`). The walk takes the entries of a
  directory by name and each directory before what is in it, which is the order of paths
  (`pairwise_walk`). Pruning plays no part in this: it only leaves paths out.

  A file is selected only if no pattern excludes it, or the last one that matches takes it back in
  (`excludesNames_eq_getLast?`). Links need no proviso here, wherever they lead.
-/

namespace BulkSuppress

namespace Exclusion.Filter

/-- The last pattern that matches decides; without one nothing is excluded. -/
theorem excludesNames_eq_getLast? (f : Filter) (names : List String) :
    f.excludesNames names
      = ((f.patterns.filter (·.isMatch names)).getLast?.map fun p => !p.negated).getD false := by
  suffices h : ∀ (ps : List Pattern) (b : Bool),
      ps.foldl (fun excluded p => if p.isMatch names then !p.negated else excluded) b
        = ((ps.filter (·.isMatch names)).getLast?.map fun p => !p.negated).getD b from
    h f.patterns false
  intro ps
  induction ps with
  | nil => exact fun b => rfl
  | cons p ps ih =>
    intro b
    rw [List.foldl_cons, ih]
    cases hp : p.isMatch names with
    | false => rw [List.filter_cons_of_neg (by simp [hp])]; rfl
    | true =>
      have hcons : (p :: ps).filter (·.isMatch names) = p :: ps.filter (·.isMatch names) :=
        List.filter_cons_of_pos hp
      rw [hcons, List.getLast?_cons]
      cases (ps.filter (·.isMatch names)).getLast? <;> rfl

end Exclusion.Filter

namespace Disk

variable {d : Disk} {loc : Location}

/-- No two entries are at the same location. -/
def Distinct (d : Disk) : Prop := (d.entries.map Prod.fst).Nodup

theorem childName?_eq_some {dir : Location} {n : String} :
    childName? dir loc = some n ↔ loc = dir ++ [n] := by
  unfold childName?
  cases hl : loc.getLast? with
  | none => simp [List.getLast?_eq_none_iff.1 hl]
  | some m =>
    obtain ⟨front, rfl⟩ := List.getLast?_eq_some_iff.1 hl
    simp [Option.ite_none_right_eq_some]

theorem isSome_kind?_of_mem {e : Entry} (h : (loc, e) ∈ d.entries) :
    (d.kind? loc).isSome = true := by
  rw [kind?, Option.isSome_map, entryAt?]
  split
  · rfl
  · rw [List.lookup_isSome_iff]
    exact ⟨_, h, beq_self_eq_true loc⟩

/-- The entries of a directory are taken by name, each once. -/
theorem pairwise_children (h : d.Distinct) (loc : Location) :
    (d.children loc).Pairwise fun n m => Ord.compare n m = .lt := by
  have hnodup : (d.children loc).Nodup := by
    rw [children, (List.mergeSort_perm _ _).nodup_iff]
    have hmap : (d.entries.filterMap fun e => childName? loc e.1)
        = (d.entries.map Prod.fst).filterMap (childName? loc) := by
      rw [List.filterMap_map]
      rfl
    rw [hmap]
    refine List.Nodup.filterMap (fun x y n hx hy => ?_) h
    rw [childName?_eq_some.1 hx, childName?_eq_some.1 hy]
  have hsorted : (d.children loc).Pairwise fun n m => decide (n ≤ m) = true :=
    List.pairwise_mergeSort (fun a b c hab hbc => by
        rw [decide_eq_true_eq] at hab hbc ⊢
        exact String.le_trans hab hbc)
      (fun a b => by
        rw [Bool.or_eq_true, decide_eq_true_eq, decide_eq_true_eq]
        exact String.le_total a b) _
  refine (hsorted.and hnodup).imp fun {n m} hnm => ?_
  exact compareOfLessAndEq_eq_lt.2 (Std.lt_of_le_of_ne (of_decide_eq_true hnm.1) hnm.2)

end Disk

namespace Discoverer

open BulkSuppress.Path (IsName)

variable {s : Discoverer} {d : Disk} {loc : Location} {skip : Path → Bool} {dir p : Path} {k : Nat}

/-! ## The order of the walk -/

/-- What the walk has for the entry `n` of a directory. -/
def walkEntry (d : Disk) (skip : Path → Bool) (k : Nat) (loc : Location) (dir : Path)
    (n : String) : List Path :=
  if d.isDirectoryAt (loc ++ [n]) then
    if skip (dir.child n) then [] else dir.child n :: walk d skip k (loc ++ [n]) (dir.child n)
  else [dir.child n]

theorem walk_succ (d : Disk) (skip : Path → Bool) (k : Nat) (loc : Location) (dir : Path) :
    walk d skip (k + 1) loc dir = (d.children loc).flatMap (walkEntry d skip k loc dir) := rfl

theorem mem_walkEntry {n : String} (h : p ∈ walkEntry d skip k loc dir n) :
    p = dir.child n ∨
      d.isDirectoryAt (loc ++ [n]) = true ∧ p ∈ walk d skip k (loc ++ [n]) (dir.child n) := by
  unfold walkEntry at h
  split at h
  · rename_i hdir
    split at h
    · cases h
    · exact (List.mem_cons.1 h).imp id fun h => ⟨hdir, h⟩
  · exact .inl (List.mem_singleton.1 h)

/-- What the walk reaches has names that lead down to it. -/
theorem leads_of_mem_walk (hnames : d.WellNamed) (h : p ∈ walk d skip k loc dir) :
    ∃ ns, ns ≠ [] ∧ (∀ n ∈ ns, IsName n) ∧ p = dir.below ns ∧
      (d.isDirectoryAt loc = true → d.Leads loc ns) := by
  induction k generalizing loc dir with
  | zero => cases h
  | succ k ih =>
    rw [walk_succ, List.mem_flatMap] at h
    obtain ⟨n, hn, h⟩ := h
    obtain ⟨e, he⟩ := Disk.mem_children.1 hn
    have hname : IsName n := hnames _ he n (by simp)
    have hkind := Disk.isSome_kind?_of_mem he
    rcases mem_walkEntry h with rfl | ⟨hdir, h⟩
    · exact ⟨[n], List.cons_ne_nil _ _, by simpa using hname, rfl, fun hloc =>
        ⟨hloc, hkind, trivial⟩⟩
    · obtain ⟨ns, -, hns, rfl, hleads⟩ := ih h
      exact ⟨n :: ns, List.cons_ne_nil _ _, List.forall_mem_cons.2 ⟨hname, hns⟩, rfl,
        fun hloc => ⟨hloc, hkind, hleads hdir⟩⟩

/-- What the walk has for an entry lies at the entry or below it. -/
theorem below_of_mem_walkEntry (hnames : d.WellNamed) {n : String} (hn : IsName n)
    (h : p ∈ walkEntry d skip k loc dir n) :
    ∃ ns, (∀ m ∈ n :: ns, IsName m) ∧ p = dir.below (n :: ns) := by
  rcases mem_walkEntry h with rfl | ⟨-, h⟩
  · exact ⟨[], by simpa using hn, rfl⟩
  · obtain ⟨ns, -, hns, rfl, -⟩ := leads_of_mem_walk hnames h
    exact ⟨ns, List.forall_mem_cons.2 ⟨hn, hns⟩, rfl⟩

/-- A directory comes before what is in it. -/
theorem compare_dir_of_mem_walk (hnames : d.WellNamed) (h : p ∈ walk d skip k loc dir) :
    Path.compare dir p = .lt := by
  obtain ⟨ns, hne, hns, rfl, -⟩ := leads_of_mem_walk hnames h
  obtain ⟨n, ns, rfl⟩ := List.exists_cons_of_ne_nil hne
  have hnil : ∀ m ∈ ([] : List String), IsName m := fun m hm => absurd hm List.not_mem_nil
  exact Path.compare_below hnil hns dir

/-- The walk goes by paths, and comes to each path once. -/
theorem pairwise_walk (hnames : d.WellNamed) (hd : d.Distinct) :
    (walk d skip k loc dir).Pairwise fun p q => Path.compare p q = .lt := by
  induction k generalizing loc dir with
  | zero => exact .nil
  | succ k ih =>
    have hname : ∀ n ∈ d.children loc, IsName n := fun n hn => by
      obtain ⟨e, he⟩ := Disk.mem_children.1 hn
      exact hnames _ he n (by simp)
    rw [walk_succ, List.pairwise_flatMap]
    constructor
    · intro n hn
      unfold walkEntry
      split
      · split
        · exact .nil
        · exact List.pairwise_cons.2 ⟨fun q hq => compare_dir_of_mem_walk hnames hq, ih⟩
      · exact List.pairwise_singleton _ _
    · -- what belongs to different entries differs in the name that comes first
      refine (Disk.pairwise_children hd loc).imp_of_mem fun {n m} hn hm hnm p hp q hq => ?_
      obtain ⟨ns, hns, rfl⟩ := below_of_mem_walkEntry hnames (hname n hn) hp
      obtain ⟨ms, hms, rfl⟩ := below_of_mem_walkEntry hnames (hname m hm) hq
      rw [Path.compare_below hns hms, List.compareLex_cons_cons, hnm, Ordering.lt_then]

/-! ## What is discovered -/

theorem isDirectory_iff {p : Path} :
    d.isDirectory p = true ↔ ∃ loc, d.resolve p = .ok loc ∧ d.isDirectoryAt loc = true := by
  unfold Disk.isDirectory Disk.stat?
  cases hr : d.resolve p with
  | error e => simp
  | ok loc =>
    simp only [Except.ok.injEq, exists_eq_left', Disk.isDirectoryAt, Disk.kind?]
    cases d.entryAt? loc with
    | none => simp
    | some e => cases e <;> simp [Entry.kind]

/-- Discovery goes over the candidates if the base leads to a directory, and fails otherwise. -/
theorem discover_cases (s : Discoverer) (d : Disk) :
    (∃ loc, d.resolve s.base = .ok loc ∧ d.isDirectoryAt loc = true ∧
        (s.discover d).value = .ok (((s.candidates d loc).filter d.isFile).filter s.selects)) ∨
      (d.isDirectory s.base = false ∧
        ∃ why, (s.discover d).value = .error (.discovery s.base why)) := by
  cases hr : d.resolve s.base with
  | error e =>
    refine .inr ⟨?_, .missing, ?_⟩
    · rw [← Bool.not_eq_true, isDirectory_iff]
      rintro ⟨loc, hloc, -⟩
      rw [hr] at hloc
      cases hloc
    · simp only [discover, hr, Logged.value_bind]
      rfl
  | ok loc =>
    cases hdir : d.isDirectoryAt loc with
    | true => exact .inl ⟨loc, rfl, hdir, discover_value hr hdir⟩
    | false =>
      refine .inr ⟨?_, .notDirectory, ?_⟩
      · rw [← Bool.not_eq_true, isDirectory_iff]
        rintro ⟨loc', hloc, hdir'⟩
        rw [hr] at hloc
        cases hloc
        rw [hdir] at hdir'
        cases hdir'
      · simp only [discover, hr, hdir, Logged.value_bind]
        rfl

theorem discover_eq_ok {files : List Path} (h : (s.discover d).value = .ok files) :
    ∃ loc, d.resolve s.base = .ok loc ∧ d.isDirectoryAt loc = true ∧
      files = ((s.candidates d loc).filter d.isFile).filter s.selects := by
  rcases s.discover_cases d with ⟨loc, hbase, hdir, hvalue⟩ | ⟨-, why, hvalue⟩
  · rw [hvalue] at h
    exact ⟨loc, hbase, hdir, (Except.ok.inj h).symm⟩
  · rw [hvalue] at h
    cases h

/-- The candidates go by paths, the base first. -/
theorem pairwise_candidates (hnames : d.WellNamed) (hd : d.Distinct) :
    (s.candidates d loc).Pairwise fun p q => Path.compare p q = .lt :=
  List.pairwise_cons.2
    ⟨fun _ hq => compare_dir_of_mem_walk hnames hq, pairwise_walk hnames hd⟩

/-- Discovery never gives a path twice, nor two paths out of order. -/
theorem pairwise_discovered {files : List Path} (hnames : d.WellNamed) (hd : d.Distinct)
    (h : (s.discover d).value = .ok files) :
    files.Pairwise fun p q => Path.compare p q = .lt := by
  obtain ⟨loc, -, -, rfl⟩ := discover_eq_ok h
  exact ((pairwise_candidates hnames hd).filter _).filter _

/--
What is discovered is a selected file, and its path leads down from the base: each name on the
way is that of an entry in a directory.
-/
theorem leads_of_mem_discovered {files : List Path} (hnames : d.WellNamed)
    (h : (s.discover d).value = .ok files) (hp : p ∈ files) :
    ∃ loc ns, d.resolve s.base = .ok loc ∧ ns ≠ [] ∧ (∀ n ∈ ns, IsName n) ∧
      p = s.base.below ns ∧ d.Leads loc ns ∧ d.isFile p = true ∧ s.selects p = true := by
  obtain ⟨loc, hbase, hdir, rfl⟩ := discover_eq_ok h
  rw [List.mem_filter, List.mem_filter] at hp
  obtain ⟨⟨hmem, hfile⟩, hsel⟩ := hp
  rcases List.mem_cons.1 hmem with rfl | hwalk
  · -- the base is a directory, and so no file
    obtain ⟨loc', content, x, hloc', he⟩ := entry_of_isFile hfile
    rw [hbase] at hloc'
    cases hloc'
    simp [Disk.isDirectoryAt, Disk.kind?, he, Entry.kind] at hdir
  · obtain ⟨ns, hne, hns, rfl, hleads⟩ := leads_of_mem_walk hnames hwalk
    exact ⟨loc, ns, hbase, hne, hns, rfl, hleads hdir, hfile, hsel⟩

/--
A file below the base, whose names from there match the selection pattern, and which is not
excluded: the last exclusion pattern that matches, if there is one, takes it back in.
-/
structure Admits (s : Discoverer) (d : Disk) (p : Path) : Prop where
  below : ∃ ns, ns ≠ [] ∧ (∀ n ∈ ns, IsName n) ∧ p = s.base.below ns ∧
    s.selection.isMatch true (Path.slashed ns) = true
  isFile : d.isFile p = true
  kept : s.filter.excludesNames (s.judgedNames p) = false
  lastMatch : ∀ pattern,
    (s.filter.patterns.filter (·.isMatch (s.judgedNames p))).getLast? = some pattern →
      pattern.negated = true

theorem admits_of_mem_discovered {files : List Path} (hnames : d.WellNamed)
    (h : (s.discover d).value = .ok files) (hp : p ∈ files) : s.Admits d p := by
  obtain ⟨loc, ns, -, hne, hns, rfl, -, hfile, hsel⟩ := leads_of_mem_discovered hnames h hp
  have hkept := excludesNames_of_selects hsel
  refine ⟨⟨ns, hne, hns, rfl, ?_⟩, hfile, hkept, fun pattern hlast => ?_⟩
  · rw [selects_below hns, Bool.and_eq_true] at hsel
    exact hsel.1
  · rw [Exclusion.Filter.excludesNames_eq_getLast?, hlast] at hkept
    simpa using hkept

/--
Discovery fails exactly if the base is no directory, and then says so of the base. Otherwise it
gives paths in their strict order, each of which is that of an admitted file.
-/
theorem discover_canonical (base root : Path) {pattern : String} (ignore : List String)
    {glob : Glob} {d : Disk} (hpattern : Glob.parse (Glob.normalizeSource pattern) = .ok glob)
    (hnames : d.WellNamed) (hd : d.Distinct) :
    ∃ made, make base pattern root ignore = .ok made ∧
      made.value = ⟨resolveBase root base, root, glob,
        (Exclusion.Filter.default.addValid ignore).value⟩ ∧
      ((∃ e, (made.value.discover d).value = .error e) ↔
        d.isDirectory made.value.base = false) ∧
      (∀ e, (made.value.discover d).value = .error e →
        ∃ why, e = .discovery made.value.base why) ∧
      ∀ files, (made.value.discover d).value = .ok files →
        files.Pairwise (fun p q => Path.compare p q = .lt) ∧
        ∀ p ∈ files, made.value.Admits d p := by
  refine ⟨_, by simp only [make, hpattern]; rfl, rfl, ?_, fun e he => ?_, fun files hfiles => ?_⟩
  · rcases discover_cases _ d with ⟨loc, hbase, hdir, hvalue⟩ | ⟨hdir, why, hvalue⟩
    · rw [hvalue, isDirectory_iff.2 ⟨loc, hbase, hdir⟩]
      simp
    · rw [hvalue, hdir]
      simp
  · rcases discover_cases _ d with ⟨loc, hbase, hdir, hvalue⟩ | ⟨hdir, why, hvalue⟩
    · rw [hvalue] at he
      cases he
    · rw [hvalue] at he
      exact ⟨why, (Except.error.inj he).symm⟩
  · exact ⟨pairwise_discovered hnames hd hfiles,
      fun p hp => admits_of_mem_discovered hnames hfiles hp⟩

/-- The pattern for all source files below the base, which the samples are discovered with. -/
theorem parse_scripts : Glob.parse (Glob.normalizeSource "**/*.js") =
    .ok ⟨"**/*.js", [.anyPath, .anySequence, .literal '.', .literal 'j', .literal 's']⟩ := by
  decide +kernel

/-- A source directory beside a file, with a link around in a circle and one to nothing. -/
def linkedDisk : Disk where
  entries := [(["src"], .directory), (["src", "b.js"], .file .empty false),
    (["src", "a.js"], .link ⟨"b.js"⟩), (["src", "up"], .link ⟨"/src"⟩),
    (["src", "gone.js"], .link ⟨"nowhere"⟩), (["src.js"], .file .empty false)]

/-- The disk with links is discovered in order, as the general statement says. -/
theorem discover_canonical_sample :
    Glob.parse (Glob.normalizeSource "./**/*.js") =
        .ok ⟨"**/*.js", [.anyPath, .anySequence, .literal '.', .literal 'j', .literal 's']⟩ ∧
      linkedDisk.WellNamed ∧ linkedDisk.Distinct ∧
      ∃ made files, make ⟨"."⟩ "./**/*.js" ⟨"/"⟩ ["*.min.js"] = .ok made ∧
        (made.value.discover linkedDisk).value = .ok files ∧
        files.Pairwise (fun p q => Path.compare p q = .lt) ∧
        ∀ p ∈ files, made.value.Admits linkedDisk p := by
  have hsource : Glob.normalizeSource "./**/*.js" = Glob.normalizeSource "**/*.js" := by decide
  have hpattern := parse_scripts
  rw [← hsource] at hpattern
  have hnames : linkedDisk.WellNamed := by
    simp only [Disk.WellNamed, linkedDisk]
    decide
  have hd : linkedDisk.Distinct := by
    simp only [Disk.Distinct, linkedDisk]
    decide
  obtain ⟨made, hmake, hmade, -, -, hfiles⟩ :=
    discover_canonical ⟨"."⟩ ⟨"/"⟩ ["*.min.js"] hpattern hnames hd
  have hbase : linkedDisk.resolve made.value.base = .ok [] := by
    rw [hmade]
    exact Disk.resolve_root linkedDisk
  have hvalue := discover_value hbase rfl
  exact ⟨hpattern, hnames, hd, made, _, hmake, hvalue, hfiles _ hvalue⟩

end Discoverer
end BulkSuppress
