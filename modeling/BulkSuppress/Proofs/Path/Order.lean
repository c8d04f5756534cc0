import BulkSuppress.Path.Order
import BulkSuppress.Proofs.Path.Components

/-
  The order of paths is a linear order on what paths stand for: the order of components lifts
  from kinds and names to paths. Sorting by path gives a sorted list, and keeps items of equal
  paths in the order in which they came (`sortsTo_sortOn`). Below one directory, paths go by the
  names on the way down (`compare_below`).
-/

namespace BulkSuppress

open Std (TransCmp OrientedCmp LawfulEqCmp)

/-! ## Components -/

namespace Component

/-- Kind and name tell a component. -/
theorem eq_of_rank_label {a b : Component} (hr : a.rank = b.rank) (hl : a.label = b.label) :
    a = b := by
  cases a <;> cases b <;> simp [rank, label, name?] at hr hl <;> simp [hl]

theorem compare_eq_compareLex :
    Component.compare = compareLex (compareOn rank) (compareOn label) := rfl

instance : TransCmp Component.compare :=
  inferInstanceAs (TransCmp (compareLex (compareOn rank) (compareOn label)))

instance : LawfulEqCmp Component.compare where
  eq_of_compare := by
    intro a b h
    rw [compare_eq_compareLex, compareLex_eq_eq] at h
    exact eq_of_rank_label (Std.LawfulEqOrd.eq_of_compare h.1) (Std.LawfulEqOrd.eq_of_compare h.2)

/-- Names go by their code points. -/
theorem compare_name (n m : String) :
    Component.compare (.name n) (.name m) = Ord.compare n m := by
  simp [Component.compare, rank, label, name?]

end Component

namespace Path

/-! ## Paths -/

theorem le_trans {p q r : Path} (hpq : p.le q = true) (hqr : q.le r = true) : p.le r = true := by
  have h : (List.compareLex Component.compare p.components r.components).isLE = true :=
    TransCmp.isLE_trans hpq hqr
  exact h

theorem le_total (p q : Path) : (p.le q || q.le p) = true := by
  rw [Bool.or_eq_true]
  refine Decidable.or_iff_not_imp_left.2 fun h => ?_
  have hlt : List.compareLex Component.compare q.components p.components = .lt :=
    OrientedCmp.lt_of_not_isLE h
  rw [le, compare, hlt]
  rfl

/-- Two paths are equal in the order exactly if they have the same components. -/
theorem compare_eq_iff {p q : Path} : compare p q = .eq ↔ p.components = q.components := by
  rw [compare, LawfulEqCmp.compare_eq_iff_eq]

theorem compare_self (p : Path) : compare p p = .eq := compare_eq_iff.2 rfl

theorem le_of_compare_eq {p q : Path} (h : compare p q = .eq) : p.le q = true := by
  rw [le, h]
  rfl

/-- What stands in front of both lists makes no difference. -/
theorem compareLex_append_left {α : Type} {cmp : α → α → Ordering} [Std.ReflCmp cmp]
    (xs ys zs : List α) :
    List.compareLex cmp (xs ++ ys) (xs ++ zs) = List.compareLex cmp ys zs := by
  induction xs with
  | nil => rfl
  | cons x xs ih =>
    have hx : cmp x x = .eq := Std.ReflCmp.compare_self
    rw [List.cons_append, List.cons_append, List.compareLex_cons_cons, hx, Ordering.eq_then, ih]

theorem compareLex_map_name (ns ms : List String) :
    List.compareLex Component.compare (ns.map .name) (ms.map .name)
      = List.compareLex Ord.compare ns ms := by
  induction ns generalizing ms with
  | nil => cases ms <;> rfl
  | cons n ns ih =>
    cases ms with
    | nil => rfl
    | cons m ms =>
      rw [List.map_cons, List.map_cons, List.compareLex_cons_cons, List.compareLex_cons_cons,
        Component.compare_name, ih]

/-- Paths below one directory go by the names that lead to them. -/
theorem compare_below {ns ms : List String} (hn : ∀ n ∈ ns, IsName n) (hm : ∀ m ∈ ms, IsName m)
    (dir : Path) : compare (dir.below ns) (dir.below ms) = List.compareLex Ord.compare ns ms := by
  rw [compare, components_below hn, components_below hm, compareLex_append_left,
    compareLex_map_name]

/-! ## Sorting -/

variable {α : Type} {key : α → Path} {items sorted : List α}

/-- The items whose path is equal to `p`, in order. -/
def itemsAt (key : α → Path) (p : Path) (items : List α) : List α :=
  items.filter fun a => compare (key a) p == .eq

/--
The sorted items are in the order of their paths, and for each path they are the given items of
this path, in the given order.
-/
structure SortsTo (key : α → Path) (items sorted : List α) : Prop where
  ordered : sorted.Pairwise fun a b => (key a).le (key b) = true
  stable : ∀ p, itemsAt key p sorted = itemsAt key p items

theorem pairwise_itemsAt (key : α → Path) (p : Path) (items : List α) :
    (itemsAt key p items).Pairwise fun a b => (key a).le (key b) = true := by
  refine List.pairwise_of_forall_mem_list fun a ha b hb => le_of_compare_eq ?_
  have ha := compare_eq_iff.1 (eq_of_beq (List.mem_filter.1 ha).2)
  have hb := compare_eq_iff.1 (eq_of_beq (List.mem_filter.1 hb).2)
  exact compare_eq_iff.2 (ha.trans hb.symm)

/-- Sorting by path sorts, and does not change the order of items with equal paths. -/
theorem sortsTo_sortOn (key : α → Path) (items : List α) :
    SortsTo key items (sortOn key items) := by
  have htrans (a b c : α) : (key a).le (key b) = true → (key b).le (key c) = true →
      (key a).le (key c) = true := le_trans
  have htotal (a b : α) : ((key a).le (key b) || (key b).le (key a)) = true := le_total _ _
  refine ⟨List.pairwise_mergeSort htrans htotal items, fun p => ?_⟩
  -- the items of one path are a sorted part of the list, and so a part of what sorting gives
  have hsub : (itemsAt key p items).Sublist (sortOn key items) :=
    List.sublist_mergeSort htrans htotal (pairwise_itemsAt key p items) List.filter_sublist
  have hat : (itemsAt key p items).Sublist (itemsAt key p (sortOn key items)) := by
    have h := hsub.filter fun a => compare (key a) p == .eq
    simpa only [itemsAt, List.filter_filter, Bool.and_self] using h
  exact (hat.eq_of_length ((sortOn_perm key items).filter _).length_eq.symm).symm

/-- Changing what goes with the paths does not change their order. -/
theorem sortOn_map {α β : Type} {key : α → Path} {key' : β → Path} {f : α → β}
    (hkey : ∀ a, key' (f a) = key a) (items : List α) :
    sortOn key' (items.map f) = (sortOn key items).map f := by
  rw [sortOn, sortOn, List.map_mergeSort]
  exact fun a _ b _ => by rw [hkey, hkey]

end Path
end BulkSuppress
