import BulkSuppress.Disk.Resolve
import BulkSuppress.Proofs.Path.Components

/-
  Where paths below a directory lead. Resolving goes piece by piece (`walk_append`), so that
  below a directory without links the path of an entry leads to the entry, by way of the
  directories that its names tell (`resolve_below`). Where there are links, a path down through
  directories still leads to its own entry, unless this is a link itself (`resolve_of_leads`).
-/

namespace BulkSuppress

namespace Disk

/-- Nothing at `loc` or below it is a link. -/
def LinkFree (d : Disk) (loc : Location) : Prop :=
  ∀ ns target, d.kind? (loc ++ ns) ≠ some (.link target)

/-- The names lead down from `loc`: each is that of an entry, and lies in a directory. -/
def Leads (d : Disk) : Location → List String → Prop
  | _, [] => True
  | loc, n :: ns =>
    d.isDirectoryAt loc = true ∧ (d.kind? (loc ++ [n])).isSome = true ∧ d.Leads (loc ++ [n]) ns

variable {kind : Location → Option Kind} {d : Disk} {loc loc' : Location} {p base : Path}

/-! ## Walking piece by piece -/

/-- Pieces behind others are looked up from where these lead, with as many links as are left. -/
theorem walk_append (kind : Location → Option Kind) (links : Nat) (loc : Location)
    (xs : List (List Char)) : ∃ left, ∀ ys, walk kind {} links loc (xs ++ ys)
      = (walk kind {} links loc xs).bind fun here => walk kind {} left here ys := by
  -- no last piece has a right of its own, so that none loses it when others follow
  obtain ⟨last, hlast⟩ : ∃ last : LastPiece, last = {} := ⟨_, rfl⟩
  rw [← hlast]
  have hnew : last.mayBeNew = false := by rw [hlast]
  have hstays : last.staysOnLink = false := by rw [hlast]
  fun_induction walk kind last links loc xs with
  | case1 links loc => exact ⟨links, fun ys => rfl⟩
  | case2 links loc piece rest hdir =>
    exact ⟨links, fun ys => by rw [List.cons_append, walk, if_pos hdir]; rfl⟩
  | case3 links loc piece rest hdir hpiece ih =>
    obtain ⟨left, ih⟩ := ih
    exact ⟨left, fun ys => by rw [← ih, List.cons_append, walk, if_neg hdir, hpiece]⟩
  | case4 links loc piece rest hdir n hpiece hlong =>
    refine ⟨links, fun ys => ?_⟩
    rw [List.cons_append, walk, if_neg hdir, hpiece]
    simp only [if_pos hlong]
    rfl
  | case5 links loc piece rest hdir n hpiece hlong hkind hlastPiece => simp [hnew] at hlastPiece
  | case6 links loc piece rest hdir n hpiece hlong hkind =>
    refine ⟨links, fun ys => ?_⟩
    rw [List.cons_append, walk, if_neg hdir, hpiece]
    simp only [if_neg hlong, hkind, hnew, Bool.false_and, Bool.false_eq_true, if_false]
    rfl
  | case7 links loc piece rest hdir n hpiece hlong target hkind hlastPiece =>
    simp [hstays] at hlastPiece
  | case8 loc piece rest hdir n hpiece hlong target hkind =>
    refine ⟨0, fun ys => ?_⟩
    rw [List.cons_append, walk, if_neg hdir, hpiece]
    simp only [if_neg hlong, hkind, hstays, Bool.false_and, Bool.false_eq_true, if_false]
    rfl
  | case9 loc piece rest hdir n hpiece hlong target hkind hlastPiece links hempty =>
    refine ⟨0, fun ys => ?_⟩
    rw [List.cons_append, walk, if_neg hdir, hpiece]
    simp only [if_neg hlong, hkind, hstays, Bool.false_and, Bool.false_eq_true, if_false,
      if_pos hempty]
    rfl
  | case10 loc piece rest hdir n hpiece hlong target hkind hlastPiece links hempty ih =>
    obtain ⟨left, ih⟩ := ih
    refine ⟨left, fun ys => ?_⟩
    rw [← ih, List.cons_append, walk, if_neg hdir, hpiece, List.append_assoc]
    simp only [if_neg hlong, hkind, hstays, Bool.false_and, Bool.false_eq_true, if_false,
      if_neg hempty]
  | case11 links loc piece rest hdir n hpiece hlong k hlink hkind ih =>
    obtain ⟨left, ih⟩ := ih
    refine ⟨left, fun ys => ?_⟩
    rw [← ih, List.cons_append, walk, if_neg hdir, hpiece]
    simp only [if_neg hlong, hkind]
  | case12 links loc piece rest hdir c hname hpiece ih =>
    obtain ⟨left, ih⟩ := ih
    refine ⟨left, fun ys => ?_⟩
    rw [← ih, List.cons_append, walk, if_neg hdir, hpiece]
    cases c with
    | name n => exact (hname n rfl).elim
    | _ => rfl

/-- An idle piece stays in the directory. -/
theorem walk_idle {links : Nat} (h : walk kind {} links loc [[]] = .ok loc') : loc = loc' := by
  rw [walk] at h
  split at h
  · cases h
  · simpa [Component.ofPiece?, walk] using h

/-- Below a directory without links, the names of entries lead down from it. -/
theorem leads_of_walk {links : Nat} {ns : List String} (hn : ∀ n ∈ ns, Path.IsName n)
    (hlinks : d.LinkFree loc) (h : walk d.kind? {} links loc (ns.map String.toList) = .ok loc') :
    loc' = loc ++ ns ∧ d.Leads loc ns := by
  induction ns generalizing loc with
  | nil =>
    rw [List.map_nil, walk] at h
    exact ⟨by simpa using (Except.ok.inj h).symm, trivial⟩
  | cons n ns ih =>
    rw [List.forall_mem_cons] at hn
    rw [List.map_cons, walk, hn.1.ofPiece?] at h
    split at h
    · cases h
    rename_i hdir
    have hdir := Decidable.not_not.1 hdir
    simp only at h
    split at h
    · cases h
    cases hk : d.kind? (loc ++ [n]) with
    | none => simp [hk] at h
    | some k =>
      have hlink : ∀ target, k ≠ .link target := fun target e => hlinks [n] target (e ▸ hk)
      have hbelow : d.LinkFree (loc ++ [n]) := fun ns target => by
        rw [List.append_assoc]; exact hlinks ([n] ++ ns) target
      have hrest : walk d.kind? {} links (loc ++ [n]) (ns.map String.toList) = .ok loc' := by
        cases k with
        | link target => exact absurd rfl (hlink target)
        | _ => simpa only [hk] using h
      obtain ⟨hloc, hleads⟩ := ih hn.2 hbelow hrest
      refine ⟨by rw [hloc, List.append_assoc]; rfl, ?_, by rw [hk]; rfl, hleads⟩
      simp [isDirectoryAt, hdir]

/-- Names that lead down through directories are followed one by one, but for a link at the end. -/
theorem eq_of_walk_of_leads {links : Nat} {ns : List String} (hn : ∀ n ∈ ns, Path.IsName n)
    (hleads : d.Leads loc ns) (hlast : ∀ target, d.kind? (loc ++ ns) ≠ some (.link target))
    (h : walk d.kind? {} links loc (ns.map String.toList) = .ok loc') : loc' = loc ++ ns := by
  induction ns generalizing loc with
  | nil =>
    rw [List.map_nil, walk] at h
    simpa using (Except.ok.inj h).symm
  | cons n ns ih =>
    rw [List.forall_mem_cons] at hn
    obtain ⟨hdir, hentry, hleads⟩ := hleads
    obtain ⟨k, hk⟩ := Option.isSome_iff_exists.1 hentry
    have hlink : ∀ target, k ≠ .link target := by
      rintro target rfl
      cases ns with
      | nil => exact hlast target hk
      | cons m ns =>
        have hdir' := hleads.1
        rw [isDirectoryAt, hk] at hdir'
        simp at hdir'
    have hlast : ∀ target, d.kind? (loc ++ [n] ++ ns) ≠ some (.link target) := by
      rwa [List.append_assoc]
    rw [List.map_cons, walk, hn.1.ofPiece?, if_neg (by simpa [isDirectoryAt] using hdir)] at h
    simp only at h
    split at h
    · cases h
    have hrest : walk d.kind? {} links (loc ++ [n]) (ns.map String.toList) = .ok loc' := by
      cases k with
      | link target => exact absurd rfl (hlink target)
      | _ => simpa only [hk] using h
    rw [ih hn.2 hleads hlast hrest, List.append_assoc]
    rfl

/-! ## Resolving below a directory -/

theorem walk_of_resolve (h : d.resolve p = .ok loc) :
    p.text ≠ "" ∧
      walk d.kind? {} linkLimit (startOf d.workingDirectory p) (piecesOf p) = .ok loc := by
  unfold resolve locate at h
  split at h
  · cases h
  rename_i hempty
  split at h
  · cases h
  split at h
  · cases h
  exact ⟨fun e => hempty (by rw [e]; rfl), h⟩

theorem resolve_root (d : Disk) : d.resolve ⟨"/"⟩ = .ok [] := by
  have hkind : d.kind? [] = some .directory := rfl
  simp only [resolve, locate]
  simp [walk, hkind, piecesOf, Text.pieces, startOf, Path.isAbsolute, Component.ofPiece?]
  decide

/-- A slash behind a path leads nowhere else. -/
theorem walk_stem (h : d.resolve p = .ok loc) :
    walk d.kind? {} linkLimit (startOf d.workingDirectory p) p.stem = .ok loc := by
  have hw := (walk_of_resolve h).2
  rcases p.pieces_eq_stem with hs | hs
  · rwa [piecesOf, hs] at hw
  obtain ⟨left, happ⟩ := walk_append d.kind? linkLimit (startOf d.workingDirectory p) p.stem
  rw [piecesOf, hs, happ] at hw
  cases hr : walk d.kind? {} linkLimit (startOf d.workingDirectory p) p.stem with
  | error e => rw [hr] at hw; cases hw
  | ok here =>
    rw [hr] at hw
    rw [walk_idle hw]

/-- A path below a directory is walked on from there, name by name. -/
theorem exists_walk_below {ns : List String} (hbase : d.resolve base = .ok loc)
    (hn : ∀ n ∈ ns, Path.IsName n) (h : d.resolve (base.below ns) = .ok loc') :
    ∃ left, walk d.kind? {} left loc (ns.map String.toList) = .ok loc' := by
  cases ns with
  | nil =>
    rw [Path.below_nil, hbase] at h
    exact ⟨linkLimit, by rw [List.map_nil, walk]; exact h⟩
  | cons n ns =>
    have hne : base.text ≠ "" := (walk_of_resolve hbase).1
    have hw := (walk_of_resolve h).2
    obtain ⟨left, happ⟩ := walk_append d.kind? linkLimit (startOf d.workingDirectory base) base.stem
    rw [startOf, Path.isAbsolute_below hn hne, ← startOf, piecesOf,
      Path.pieces_below hn hne (List.cons_ne_nil _ _), happ, walk_stem hbase] at hw
    exact ⟨left, hw⟩

/-- In a directory without links, paths lead down by their names. -/
theorem resolve_below {ns : List String} (hbase : d.resolve base = .ok loc)
    (hlinks : d.LinkFree loc) (hn : ∀ n ∈ ns, Path.IsName n)
    (h : d.resolve (base.below ns) = .ok loc') : loc' = loc ++ ns ∧ d.Leads loc ns := by
  obtain ⟨left, hw⟩ := exists_walk_below hbase hn h
  exact leads_of_walk hn hlinks hw

/-- A path down through directories leads to its own entry, unless that is a link. -/
theorem resolve_of_leads {ns : List String} (hbase : d.resolve base = .ok loc)
    (hn : ∀ n ∈ ns, Path.IsName n) (hleads : d.Leads loc ns)
    (hlast : ∀ target, d.kind? (loc ++ ns) ≠ some (.link target))
    (h : d.resolve (base.below ns) = .ok loc') : loc' = loc ++ ns := by
  obtain ⟨left, hw⟩ := exists_walk_below hbase hn h
  exact eq_of_walk_of_leads hn hleads hlast hw

end Disk
end BulkSuppress
