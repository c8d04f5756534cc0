import BulkSuppress.Proofs.Discovery.Canonical
import BulkSuppress.Proofs.Disk.Settled

/-
  How the base directory is written, and what that does to exclusion. The base is put behind the
  project root step by step, and a path below it is judged by the names that are left when the
  project root is taken from the front of its text. A `..` in between is passed over. So the names
  tell where a file is as long as the base does not climb; for a base that does, `ShowsPlace` says
  when they still do (`judgesByPlace_iff`).
-/

namespace BulkSuppress.Discoverer

open BulkSuppress.Path (IsName)

variable {s : Discoverer} {root base : Path} {here : Location} {ns : List String}

/-! ## The base behind the project root -/

/-- The base is put behind the project root step by step, unless it has a root of its own. -/
theorem components_resolveBase (root base : Path) :
    ∃ cs, (∀ c ∈ cs, c.IsStep) ∧
      (base.components = .root :: cs ∧ (resolveBase root base).components = .root :: cs ∨
        (base.components = .current :: cs ∨ base.components = cs) ∧
          (resolveBase root base).components = root.components ++ cs) := by
  obtain ⟨cs, hcs, hbase⟩ := base.components_cases
  have hfilter : cs.filter (· ≠ .current) = cs := by
    refine List.filter_eq_self.2 fun c hc => ?_
    have := hcs c hc
    cases c with
    | current => exact this.elim
    | _ => rfl
  refine ⟨cs, hcs, ?_⟩
  unfold resolveBase
  rcases hbase with hbase | hbase | hbase
  · refine .inl ⟨hbase, ?_⟩
    have hjoin : root.join Component.root.toPath = ⟨"/"⟩ := by
      simp [Path.join, Path.isAbsolute, Component.toPath]
    have hslash : Path.components ⟨"/"⟩ = [.root] := by decide
    rw [hbase, List.filter_cons_of_pos (by decide), hfilter, List.foldl_cons, hjoin,
      Path.components_foldl_join hcs, hslash]
    rfl
  · refine .inr ⟨.inl hbase, ?_⟩
    rw [hbase, List.filter_cons_of_neg (by decide), hfilter, Path.components_foldl_join hcs]
  · refine .inr ⟨.inr hbase, ?_⟩
    rw [hbase, hfilter, Path.components_foldl_join hcs]

/-- From the project root, the base settles to what the two put together settle to. -/
theorem settle_resolveBase (root base : Path) (here : Location) :
    (resolveBase root base).settle here = base.settle (root.settle here) := by
  obtain ⟨cs, -, ⟨hbase, h⟩ | ⟨hbase | hbase, h⟩⟩ := components_resolveBase root base
  · rw [Path.settle, Path.settle, h, hbase]
    rfl
  · rw [Path.settle, Path.settle, h, hbase, List.foldl_append]
    rfl
  · rw [Path.settle, Path.settle, h, hbase, List.foldl_append]
    rfl

/-- Behind a plain project root, every base is absolute, and climbs only if it did before. -/
theorem exists_steps_resolveBase (hroot : root.IsPlain) (base : Path) :
    ∃ cs, (∀ c ∈ cs, c.IsStep) ∧ (resolveBase root base).components = .root :: cs ∧
      (.parent ∈ cs ↔ .parent ∈ base.components) := by
  obtain ⟨cs, hcs, ⟨hbase, h⟩ | ⟨hbase, h⟩⟩ := components_resolveBase root base
  · exact ⟨cs, hcs, h, by rw [hbase]; simp⟩
  have hnames : ∀ c ∈ root.names.map Component.name, c.IsStep := by
    intro c hc
    obtain ⟨n, hn, rfl⟩ := List.mem_map.1 hc
    exact Path.isName_of_mem_names hn
  refine ⟨root.names.map .name ++ cs, ?_, ?_, ?_⟩
  · intro c hc
    rcases List.mem_append.1 hc with hc | hc
    · exact hnames c hc
    · exact hcs c hc
  · rw [h, hroot]
    rfl
  · rcases hbase with hbase | hbase <;> rw [hbase] <;> simp

/-! ## What exclusion patterns see -/

/--
What exclusion patterns are to see of the names that lead on from the directory `here`: the names
from the project root, or from the directory if they lead out of the project.
-/
def placed (root here : Location) (ns : List String) : List String :=
  if root <+: here ++ ns then (here ++ ns).drop root.length else ns

/-- Everything below the base is judged by where it is. -/
def JudgesByPlace (s : Discoverer) (here : Location) : Prop :=
  ∀ ns, (∀ n ∈ ns, IsName n) →
    s.judgedNames (s.base.below ns) = placed s.projectRoot.names here ns

/--
The base shows where it is by its names alone: it does not climb. Or it climbs, but to no effect
if it is written with the project root in front, and otherwise to the project root itself or to a
directory neither above nor below it.
-/
def ShowsPlace (s : Discoverer) (here : Location) : Prop :=
  .parent ∉ s.base.components ∨
    if s.projectRoot.components <+: s.base.components then s.base.names = here
    else here = s.projectRoot.names ∨
      ¬ s.projectRoot.names <+: here ∧ ¬ here <+: s.projectRoot.names

variable {cs : List Component}

theorem map_name_prefix_iff {rs : List String} :
    rs.map Component.name <+: ns.map Component.name ↔ rs <+: ns :=
  List.prefix_map_iff_of_injective fun _ _ h => Component.name.inj h

/-- The names a path is judged by, from the components that it is written with. -/
theorem judgedNames_eq (hroot : s.projectRoot.IsPlain)
    (hbase : s.base.components = .root :: cs) (hn : ∀ n ∈ ns, IsName n) :
    s.judgedNames (s.base.below ns)
      = if s.projectRoot.names.map .name <+: cs ++ ns.map Component.name then
          ((cs ++ ns.map Component.name).drop s.projectRoot.names.length).filterMap Component.name?
        else ns := by
  have hcomp : (s.base.below ns).components = .root :: (cs ++ ns.map .name) := by
    rw [Path.components_below hn, hbase]
    rfl
  rw [judgedNames_below hn]
  cases hr : (s.base.below ns).stripPrefix? s.projectRoot with
  | none =>
    have hnot : ¬ s.projectRoot.components <+: (s.base.below ns).components := by
      rw [← List.isPrefixOf_iff_prefix, ← Path.isSome_stripPrefix?, hr]
      exact Bool.false_ne_true
    rw [hcomp, hroot, List.cons_prefix_cons] at hnot
    rw [if_neg fun h => hnot ⟨rfl, h⟩]
    rfl
  | some q =>
    have hq := Path.components_of_stripPrefix? hr
    rw [hcomp, hroot, List.cons_append, List.cons.injEq] at hq
    rw [hq.2, if_pos (List.prefix_append _ _), List.drop_left' (List.length_map _)]
    rfl

/-- A base that does not climb is made of its names. -/
theorem eq_map_name_of_not_climbing (hbase : s.base.components = .root :: cs)
    (hcs : ∀ c ∈ cs, c.IsStep) (hp : .parent ∉ cs) : cs = (s.base.settle []).map .name := by
  have h := Path.eq_map_name_of_isStep hcs hp
  rw [Path.settle, hbase, List.foldl_cons, Component.settle, h, Path.foldl_settle_names,
    List.nil_append, ← h]

theorem judgesByPlace_of_not_climbing (hroot : s.projectRoot.IsPlain)
    (hbase : s.base.components = .root :: cs) (hcs : ∀ c ∈ cs, c.IsStep) (hp : .parent ∉ cs) :
    s.JudgesByPlace (s.base.settle []) := by
  intro ns hn
  have hmap : cs ++ ns.map Component.name = (s.base.settle [] ++ ns).map .name := by
    rw [List.map_append, ← eq_map_name_of_not_climbing hbase hcs hp]
  rw [judgedNames_eq hroot hbase hn, hmap, placed]
  simp only [map_name_prefix_iff, ← List.map_drop, Path.names_map_name]

/-! ## Bases that climb -/

theorem names_eq (hbase : s.base.components = .root :: cs) :
    s.base.names = cs.filterMap Component.name? := by
  rw [Path.names, hbase]
  rfl

/-- Behind the project root, a path is judged by all names that it is written with. -/
theorem judgedNames_behindRoot {ys : List Component} (hroot : s.projectRoot.IsPlain)
    (hbase : s.base.components = .root :: (s.projectRoot.names.map .name ++ ys))
    (hn : ∀ n ∈ ns, IsName n) :
    s.judgedNames (s.base.below ns) = ys.filterMap Component.name? ++ ns := by
  rw [judgedNames_eq hroot hbase hn, List.append_assoc, if_pos (List.prefix_append _ _),
    List.drop_left' (List.length_map _), List.filterMap_append, Path.names_map_name]

/-- A path that climbs, but not behind the project root, is judged from the base. -/
theorem judgedNames_of_climbing (hroot : s.projectRoot.IsPlain)
    (hbase : s.base.components = .root :: cs) (hp : .parent ∈ cs)
    (hpre : ¬ s.projectRoot.names.map .name <+: cs) (hn : ∀ n ∈ ns, IsName n) :
    s.judgedNames (s.base.below ns) = ns := by
  rw [judgedNames_eq hroot hbase hn]
  refine if_neg fun h => ?_
  rcases List.prefix_or_prefix_of_prefix h (List.prefix_append _ _) with h | h
  · exact hpre h
  · obtain ⟨n, -, hn⟩ := List.mem_map.1 (h.subset hp)
    cases hn

/-- Nothing but `..` leads up. -/
theorem foldl_settle_prefix (hcs : ∀ c ∈ cs, c.IsStep) (hnone : cs.filterMap Component.name? = [])
    (here : Location) : cs.foldl Component.settle here <+: here := by
  induction cs generalizing here with
  | nil => exact List.prefix_refl _
  | cons c cs ih =>
    rw [List.forall_mem_cons] at hcs
    cases c with
    | root => exact hcs.1.elim
    | current => exact hcs.1.elim
    | parent => exact (ih hcs.2 hnone here.dropLast).trans (List.dropLast_prefix here)
    | name n => cases hnone

/-- A base that is written with the project root in front has to name all of where it is. -/
theorem judgesByPlace_iff_behindRoot {ys : List Component} (hroot : s.projectRoot.IsPlain)
    (hbase : s.base.components = .root :: (s.projectRoot.names.map .name ++ ys))
    (hys : ∀ c ∈ ys, c.IsStep) :
    s.JudgesByPlace (s.base.settle []) ↔ s.base.names = s.base.settle [] := by
  have hnames : s.base.names = s.projectRoot.names ++ ys.filterMap Component.name? := by
    rw [names_eq hbase, List.filterMap_append, Path.names_map_name]
  have hhere : s.base.settle [] = ys.foldl Component.settle s.projectRoot.names := by
    rw [Path.settle, hbase, List.foldl_cons, List.foldl_append, Component.settle,
      Path.foldl_settle_names, List.nil_append]
  constructor
  · intro h
    have hself := h [] (fun n hn => absurd hn List.not_mem_nil)
    rw [judgedNames_behindRoot hroot hbase (fun n hn => absurd hn List.not_mem_nil),
      List.append_nil, placed, List.append_nil] at hself
    split at hself
    · rename_i hin
      obtain ⟨rest, hrest⟩ := hin
      rw [hnames, hself, ← hrest, List.drop_left]
    · -- the base lies above the project, of which everything would be judged from the base
      rename_i hout
      obtain ⟨rest, hrest⟩ := hhere ▸ foldl_settle_prefix hys hself s.projectRoot.names
      have hrestNames : ∀ n ∈ rest, IsName n := fun n hn =>
        Path.isName_of_mem_names (hrest ▸ List.mem_append_right _ hn)
      have hroot' := h rest hrestNames
      rw [judgedNames_behindRoot hroot hbase hrestNames, hself, List.nil_append, placed, hrest,
        if_pos (List.prefix_refl _), List.drop_length] at hroot'
      rw [hroot', List.append_nil] at hrest
      exact absurd (hrest ▸ List.prefix_refl _) hout
  · intro h ns hn
    rw [judgedNames_behindRoot hroot hbase hn, placed, ← h, hnames, List.append_assoc,
      if_pos (List.prefix_append _ _), List.drop_left]

/-- A base that climbs past the project root must not lie above it or below it. -/
theorem judgesByPlace_iff_of_climbing (hroot : s.projectRoot.IsPlain)
    (hbase : s.base.components = .root :: cs) (hp : .parent ∈ cs)
    (hpre : ¬ s.projectRoot.names.map .name <+: cs) (here : Location) :
    s.JudgesByPlace here ↔ here = s.projectRoot.names ∨
      ¬ s.projectRoot.names <+: here ∧ ¬ here <+: s.projectRoot.names := by
  constructor
  · intro h
    by_contra hnot
    rw [not_or, not_and_or, Decidable.not_not, Decidable.not_not] at hnot
    obtain ⟨hne, ⟨rest, hrest⟩ | ⟨rest, hrest⟩⟩ := hnot
    · have hself := h [] (fun n hn => absurd hn List.not_mem_nil)
      rw [judgedNames_of_climbing hroot hbase hp hpre (fun n hn => absurd hn List.not_mem_nil),
        placed, List.append_nil, ← hrest, if_pos (List.prefix_append _ _), List.drop_left] at hself
      rw [← hself, List.append_nil] at hrest
      exact hne hrest.symm
    · have hrestNames : ∀ n ∈ rest, IsName n := fun n hn =>
        Path.isName_of_mem_names (hrest ▸ List.mem_append_right _ hn)
      have hroot' := h rest hrestNames
      rw [judgedNames_of_climbing hroot hbase hp hpre hrestNames, placed, hrest,
        if_pos (List.prefix_refl _), List.drop_length] at hroot'
      rw [hroot', List.append_nil] at hrest
      exact hne hrest
  · intro h ns hn
    rw [judgedNames_of_climbing hroot hbase hp hpre hn, placed]
    rcases h with rfl | ⟨hbelow, habove⟩
    · rw [if_pos (List.prefix_append _ _), List.drop_left]
    · refine (if_neg fun hin => ?_).symm
      rcases List.prefix_or_prefix_of_prefix hin (List.prefix_append _ _) with h | h
      · exact hbelow h
      · exact habove h

/-- What lies below a base is judged by its place exactly if the base shows where it is. -/
theorem judgesByPlace_iff (hroot : s.projectRoot.IsPlain)
    (hbase : s.base.components = .root :: cs) (hcs : ∀ c ∈ cs, c.IsStep) :
    s.JudgesByPlace (s.base.settle []) ↔ s.ShowsPlace (s.base.settle []) := by
  have hparent : .parent ∈ s.base.components ↔ .parent ∈ cs := by rw [hbase]; simp
  have hprefix : s.projectRoot.components <+: s.base.components ↔
      s.projectRoot.names.map .name <+: cs := by
    rw [hbase, hroot, List.cons_prefix_cons, and_iff_right rfl]
  simp only [ShowsPlace, hparent, hprefix]
  by_cases hp : .parent ∈ cs
  · split
    · rename_i hpre
      obtain ⟨ys, rfl⟩ := hpre
      rw [judgesByPlace_iff_behindRoot hroot hbase fun c hc => hcs c (List.mem_append_right _ hc)]
      simp [hp]
    · rename_i hpre
      rw [judgesByPlace_iff_of_climbing hroot hbase hp hpre]
      simp [hp]
  · exact iff_of_true (judgesByPlace_of_not_climbing hroot hbase hcs hp) (.inl hp)

end BulkSuppress.Discoverer
