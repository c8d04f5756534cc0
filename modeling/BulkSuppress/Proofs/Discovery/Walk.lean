import BulkSuppress.Discovery
import BulkSuppress.Proofs.Disk.Below

/-
  What a walk over a directory comes to. The walk reaches the path of an entry if none of the
  directories on the way is skipped (`mem_walk`), and only then (`exists_of_mem_walk`), as long
  as the disk has proper names.
-/

namespace BulkSuppress

namespace Disk

variable {d : Disk} {loc : Location} {n : String}

/-- Every entry has the names that a file system gives. -/
def WellNamed (d : Disk) : Prop :=
  ∀ e ∈ d.entries, ∀ n ∈ e.1, Path.IsName n

theorem linkFree_of_entries (h : ∀ e ∈ d.entries, ∀ target, e.2.kind ≠ .link target)
    (loc : Location) : d.LinkFree loc := by
  intro ns target hk
  rw [kind?, Option.map_eq_some_iff] at hk
  obtain ⟨e, he, hlink⟩ := hk
  by_cases hne : loc ++ ns = []
  · rw [hne, entryAt?, if_pos rfl] at he
    cases he
    cases hlink
  · exact h _ (mem_entries he hne) target hlink

theorem mem_children : n ∈ d.children loc ↔ ∃ e, (loc ++ [n], e) ∈ d.entries := by
  rw [children, List.mem_mergeSort, List.mem_filterMap]
  constructor
  · rintro ⟨⟨place, e⟩, he, hc⟩
    simp only [childName?] at hc
    split at hc
    · rename_i m hm
      obtain ⟨front, rfl⟩ := List.getLast?_eq_some_iff.1 hm
      split at hc
      · rename_i hf
        rw [List.dropLast_concat] at hf
        cases hc
        exact ⟨e, hf ▸ he⟩
      · cases hc
    · cases hc
  · rintro ⟨e, he⟩
    exact ⟨_, he, by simp [childName?]⟩

end Disk

namespace Discoverer

variable {d : Disk} {loc : Location} {skip : Path → Bool} {dir : Path} {ns : List String}

/-- The names of a directory on the way to what the names lead to. -/
def IsAbove (pre ns : List String) : Prop :=
  pre ≠ [] ∧ ∃ rest, rest ≠ [] ∧ ns = pre ++ rest

theorem not_isAbove_nil (pre : List String) : ¬ IsAbove pre [] := by
  rintro ⟨-, rest, hr, h⟩
  exact hr (List.append_eq_nil_iff.1 h.symm).2

theorem forall_isAbove_cons {n : String} {P : List String → Prop} :
    (∀ pre, IsAbove pre (n :: ns) → P pre) ↔
      (ns ≠ [] → P [n]) ∧ ∀ pre, IsAbove pre ns → P (n :: pre) := by
  constructor
  · refine fun h => ⟨fun hne => h [n] ⟨List.cons_ne_nil _ _, ns, hne, rfl⟩, fun pre hp => ?_⟩
    obtain ⟨-, rest, hr, rfl⟩ := hp
    exact h (n :: pre) ⟨List.cons_ne_nil _ _, rest, hr, rfl⟩
  · rintro ⟨h0, h⟩ pre ⟨hne, rest, hr, hpre⟩
    obtain ⟨m, pre, rfl⟩ := List.exists_cons_of_ne_nil hne
    obtain ⟨rfl, rfl⟩ := List.cons.inj hpre
    cases pre with
    | nil => exact h0 hr
    | cons m pre => exact h (m :: pre) ⟨List.cons_ne_nil _ _, rest, hr, rfl⟩

theorem length_le_depth {e : Entry} (h : (loc, e) ∈ d.entries) : loc.length ≤ depth d := by
  have hmem : loc.length ∈ d.entries.map (·.1.length) := List.mem_map_of_mem h
  rw [depth, List.foldl_max_eq_max (List.ne_nil_of_mem hmem)]
  exact Nat.le_trans (List.le_max_of_mem hmem) (Nat.le_max_right _ _)

/-- The walk reaches every entry with no skipped directory on the way, if it goes deep enough. -/
theorem mem_walk {k : Nat} (hne : ns ≠ []) (hk : ns.length ≤ k) (hleads : d.Leads loc ns)
    (hleaf : d.isDirectoryAt (loc ++ ns) = false)
    (hskip : ∀ pre, IsAbove pre ns → skip (dir.below pre) = false) :
    dir.below ns ∈ walk d skip k loc dir := by
  induction ns generalizing k loc dir with
  | nil => exact absurd rfl hne
  | cons n ns ih =>
    obtain ⟨k, rfl⟩ : ∃ j, k = j + 1 := Nat.exists_eq_succ_of_ne_zero (by rintro rfl; simp at hk)
    obtain ⟨-, hentry, hrest⟩ := hleads
    obtain ⟨e, he⟩ : ∃ e, d.entryAt? (loc ++ [n]) = some e := by
      rwa [Disk.kind?, Option.isSome_map, Option.isSome_iff_exists] at hentry
    rw [walk, List.mem_flatMap]
    refine ⟨n, Disk.mem_children.2 ⟨e, Disk.mem_entries he (by simp)⟩, ?_⟩
    cases ns with
    | nil =>
      rw [if_neg (by simp [hleaf])]
      exact List.mem_singleton.2 rfl
    | cons m ns =>
      obtain ⟨hhere, hbelow⟩ := forall_isAbove_cons.1 hskip
      have hhere : skip (dir.child n) = false := hhere (List.cons_ne_nil _ _)
      rw [if_pos hrest.1, hhere, if_neg Bool.false_ne_true]
      exact List.mem_cons_of_mem _ (ih (List.cons_ne_nil _ _) (Nat.le_of_succ_le_succ hk) hrest
        (by rw [List.append_assoc]; exact hleaf) hbelow)

/-- What the walk reaches lies below the directory, with no skipped directory on the way. -/
theorem exists_of_mem_walk {k : Nat} {p : Path} (h : p ∈ walk d skip k loc dir) :
    ∃ ns, p = dir.below ns ∧ (∀ n ∈ ns, ∃ e ∈ d.entries, n ∈ e.1) ∧
      ∀ pre, IsAbove pre ns → skip (dir.below pre) = false := by
  induction k generalizing loc dir with
  | zero => cases h
  | succ k ih =>
    rw [walk, List.mem_flatMap] at h
    obtain ⟨n, hn, h⟩ := h
    obtain ⟨e, he⟩ := Disk.mem_children.1 hn
    have hname : ∃ e ∈ d.entries, n ∈ e.1 := ⟨_, he, by simp⟩
    have hself : ∃ ns, dir.child n = dir.below ns ∧ (∀ n ∈ ns, ∃ e ∈ d.entries, n ∈ e.1) ∧
        ∀ pre, IsAbove pre ns → skip (dir.below pre) = false :=
      ⟨[n], rfl, by simpa using hname, forall_isAbove_cons.2
        ⟨fun h => absurd rfl h, fun pre h => absurd h (not_isAbove_nil pre)⟩⟩
    split at h
    · cases hs : skip (dir.child n) with
      | true => simp [hs] at h
      | false =>
        simp only [hs, Bool.false_eq_true, if_false, List.mem_cons] at h
        rcases h with rfl | h
        · exact hself
        · obtain ⟨ns, rfl, hns, hskip⟩ := ih h
          exact ⟨n :: ns, rfl, List.forall_mem_cons.2 ⟨hname, hns⟩,
            forall_isAbove_cons.2 ⟨fun _ => hs, hskip⟩⟩
    · rw [List.mem_singleton.1 h]
      exact hself

end Discoverer
end BulkSuppress
