import BulkSuppress.Proofs.Disk.Below
import BulkSuppress.Proofs.Path.Settle

/-
  Disks without links. There a path leads to what it settles to by its text, if it leads anywhere
  (`eq_settle_of_resolve`): each `..` goes back from a directory to the one it was entered from.
  What lies below a directory is then found by whatever path the directory is named, as long as
  the system takes the path (`isFile_below_congr`).
-/

namespace BulkSuppress.Disk

open BulkSuppress.Path (IsName)

variable {kind : Location → Option Kind} {d : Disk} {loc loc' : Location} {p base : Path}
  {ns : List String}

theorem LinkFree.ne_link (h : d.LinkFree []) (loc : Location) (target : Path) :
    d.kind? loc ≠ some (.link target) := by
  rw [← List.nil_append loc]
  exact h loc target

/-! ## Where a path leads -/

/-- Without links, walking over pieces is settling them. -/
theorem eq_settle_of_walk {links : Nat} {pieces : List (List Char)}
    (hlinks : ∀ loc target, kind loc ≠ some (.link target))
    (h : walk kind {} links loc pieces = .ok loc') :
    loc' = (pieces.filterMap Component.ofPiece?).foldl Component.settle loc := by
  induction pieces generalizing loc with
  | nil =>
    rw [walk] at h
    exact (Except.ok.inj h).symm
  | cons piece rest ih =>
    rw [walk] at h
    split at h
    · cases h
    split at h
    · rename_i hpiece
      rw [List.filterMap_cons_none hpiece]
      exact ih h
    · rename_i n hpiece
      rw [List.filterMap_cons_some hpiece, List.foldl_cons, Component.settle]
      split at h
      · cases h
      split at h
      · split at h
        · rename_i hnew
          simp at hnew
        · cases h
      · rename_i target hkind
        exact absurd hkind (hlinks _ _)
      · exact ih h
    · rename_i c hname hpiece
      have hparent : c = .parent := by
        have hstep := hpiece
        unfold Component.ofPiece? at hstep
        split at hstep
        · cases hstep
        split at hstep
        · exact (Option.some.inj hstep).symm
        · exact absurd (Option.some.inj hstep).symm (hname _)
      rw [List.filterMap_cons_some hpiece, hparent, List.foldl_cons, Component.settle]
      exact ih h

/-- Without links, a path leads nowhere but to what it settles to. -/
theorem eq_settle_of_resolve (hlinks : d.LinkFree []) (h : d.resolve p = .ok loc) :
    loc = p.settle d.workingDirectory := by
  obtain ⟨hne, hwalk⟩ := walk_of_resolve h
  rw [eq_settle_of_walk hlinks.ne_link hwalk, Path.settle_eq_foldl hne, startOf, piecesOf]

/-! ## Below a directory, however it is named -/

/-- Without links, it does not matter how many could be followed. -/
theorem walk_congr_links {pieces : List (List Char)}
    (hlinks : ∀ loc target, kind loc ≠ some (.link target)) (links links' : Nat) :
    walk kind {} links loc pieces = walk kind {} links' loc pieces := by
  induction pieces generalizing loc with
  | nil => rw [walk, walk]
  | cons piece rest ih =>
    simp only [walk]
    split
    · rfl
    cases hpiece : Component.ofPiece? piece with
    | none => exact ih
    | some c =>
      cases c with
      | name n =>
        cases hkind : kind (loc ++ [n]) with
        | none => simp only [hkind]
        | some k =>
          cases k with
          | link target => exact absurd hkind (hlinks _ _)
          | _ => simp only [hkind, ih]
      | _ => exact ih

/-- A character other than the slash gets into an entry's path by its directory or its name. -/
theorem mem_toList_below {a : Char} (ha : a ≠ '/') (hn : ∀ n ∈ ns, IsName n) :
    a ∈ (base.below ns).text.toList ↔ a ∈ base.text.toList ∨ ∃ n ∈ ns, a ∈ n.toList := by
  induction ns generalizing base with
  | nil => simp
  | cons n ns ih =>
    rw [List.forall_mem_cons] at hn
    have hchild : a ∈ (base.child n).text.toList ↔ a ∈ base.text.toList ∨ a ∈ n.toList := by
      rw [Path.toList_child hn.1]
      split
      · rename_i hempty
        simp [hempty]
      · split <;> simp [ha]
    rw [Path.below_cons, ih hn.2, hchild, or_assoc]
    simp

theorem resolve_eq_ok_iff : d.resolve p = .ok loc ↔
    p.text ≠ "" ∧ '\x00' ∉ p.text.toList ∧ p.text.utf8ByteSize ≤ pathLimit ∧
      walk d.kind? {} linkLimit (startOf d.workingDirectory p) (piecesOf p) = .ok loc := by
  unfold resolve locate
  split
  · simp_all
  split
  · simp_all
  split
  · rename_i hlong
    exact ⟨(nomatch ·), fun h => absurd h.2.2.1 (Nat.not_le.2 hlong)⟩
  · simp_all

/-- What is found below a directory by one path of the directory is found by another one. -/
theorem resolve_below_congr {base' : Path} (hlinks : d.LinkFree [])
    (hbase : d.resolve base = .ok loc) (hbase' : d.resolve base' = .ok loc) (hn : ∀ n ∈ ns, IsName n)
    (hsize : (base'.below ns).text.utf8ByteSize ≤ pathLimit)
    (h : d.resolve (base.below ns) = .ok loc') : d.resolve (base'.below ns) = .ok loc' := by
  cases ns with
  | nil =>
    rw [Path.below_nil] at h ⊢
    rw [hbase', ← hbase, h]
  | cons n ns =>
    obtain ⟨left, hwalk⟩ := exists_walk_below hbase hn h
    obtain ⟨hne, hnul, -, -⟩ := resolve_eq_ok_iff.1 hbase'
    have hnames : '\x00' ∉ (base'.below (n :: ns)).text.toList := by
      rw [mem_toList_below (by decide) hn, not_or]
      refine ⟨hnul, fun hmem => (resolve_eq_ok_iff.1 h).2.1 ?_⟩
      exact (mem_toList_below (by decide) hn).2 (.inr hmem)
    refine resolve_eq_ok_iff.2 ⟨Path.text_below_ne_empty hn hne, hnames, hsize, ?_⟩
    obtain ⟨left', happ⟩ :=
      walk_append d.kind? linkLimit (startOf d.workingDirectory base') base'.stem
    rw [startOf, Path.isAbsolute_below hn hne, ← startOf, piecesOf,
      Path.pieces_below hn hne (List.cons_ne_nil _ _), happ, walk_stem hbase', ← hwalk]
    exact walk_congr_links hlinks.ne_link left' left

theorem isFile_below_congr {base' : Path} (hlinks : d.LinkFree [])
    (hbase : d.resolve base = .ok loc) (hbase' : d.resolve base' = .ok loc) (hn : ∀ n ∈ ns, IsName n)
    (hsize : (base'.below ns).text.utf8ByteSize ≤ pathLimit)
    (h : d.isFile (base.below ns) = true) : d.isFile (base'.below ns) = true := by
  obtain ⟨loc', hloc⟩ : ∃ loc', d.resolve (base.below ns) = .ok loc' := by
    cases hr : d.resolve (base.below ns) with
    | ok loc' => exact ⟨loc', rfl⟩
    | error e => simp [isFile, stat?, hr] at h
  rw [isFile, stat?, hloc] at h
  rw [isFile, stat?, resolve_below_congr hlinks hbase hbase' hn hsize hloc]
  exact h

end BulkSuppress.Disk
