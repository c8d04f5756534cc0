import BulkSuppress.Path.Basic

/-
  The order of paths: component by component, where the root comes before `.`, `.` before `..`,
  `..` before every name, and names go by their code points. Paths that differ only in idle
  slashes and dots are equal in this order. `sortOn_perm` says that sorting by path keeps the items.
-/

namespace BulkSuppress

/-- The place of a kind of component among the kinds. -/
def Component.rank : Component → Nat
  | .root => 0
  | .current => 1
  | .parent => 2
  | .name _ => 3

/-- The name of a named component, the empty text otherwise. -/
def Component.label (c : Component) : String :=
  c.name?.getD ""

/-- Components go by kind, then by name. -/
def Component.compare (a b : Component) : Ordering :=
  (Ord.compare a.rank b.rank).then (Ord.compare a.label b.label)

namespace Path

/-- Paths go by their components, a path before the paths below it. -/
def compare (p q : Path) : Ordering :=
  List.compareLex Component.compare p.components q.components

/-- `p` does not come after `q`. -/
def le (p q : Path) : Bool :=
  (compare p q).isLE

/-- The items in the order of their paths; items of equal paths keep their order. -/
def sortOn {α : Type} (key : α → Path) (items : List α) : List α :=
  items.mergeSort fun a b => (key a).le (key b)

theorem sortOn_perm {α : Type} (key : α → Path) (items : List α) :
    (sortOn key items).Perm items :=
  List.mergeSort_perm _ _

end Path
end BulkSuppress
