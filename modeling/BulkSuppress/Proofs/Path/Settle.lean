import BulkSuppress.Disk.Basic
import BulkSuppress.Proofs.Path.Components

/-
  Paths taken by their text alone. `settle` reads a path from a directory: `..` takes away the
  name before it, whatever the disk has there. Names behind a path are names behind what it settles
  to (`settle_below`).

  A path has a root or a `.` at its front at most; all else are names and `..`
  (`components_cases`). A plain path has nothing but names behind its root, and settles to these
  from everywhere (`IsPlain.settle`).
-/

namespace BulkSuppress

/-- The location one component further, by its text alone. -/
def Component.settle (here : Location) : Component → Location
  | .root => []
  | .current => here
  | .parent => here.dropLast
  | .name n => here ++ [n]

/-- A `..`, or a name that a directory can have an entry of. -/
def Component.IsStep : Component → Prop
  | .root | .current => False
  | .parent => True
  | .name n => Path.IsName n

namespace Path

/-- The location that a path names from a directory, by its text alone. -/
def settle (p : Path) (here : Location) : Location :=
  p.components.foldl Component.settle here

/-- An absolute path without `.` and `..`. -/
def IsPlain (p : Path) : Prop := p.components = .root :: p.names.map .name

instance (p : Path) : Decidable p.IsPlain := inferInstanceAs (Decidable (_ = _))

variable {p dir : Path} {here : Location} {ns : List String} {cs : List Component}

/-! ## Components -/

theorem isStep_of_ofPiece? {piece : List Char} {c : Component} (hs : '/' ∉ piece)
    (h : Component.ofPiece? piece = some c) : c.IsStep := by
  unfold Component.ofPiece? at h
  split at h
  · cases h
  rename_i hidle
  simp only [Bool.or_eq_true, decide_eq_true_eq, not_or] at hidle
  split at h
  · rw [← Option.some.inj h]
    trivial
  rename_i hparent
  rw [← Option.some.inj h]
  have ne (t : String) (ht : piece ≠ t.toList) : String.ofList piece ≠ t := fun e => by
    rw [← e, String.toList_ofList] at ht
    exact ht rfl
  exact ⟨ne "" hidle.1, ne "." hidle.2, ne ".." hparent, by rwa [String.toList_ofList]⟩

theorem isStep_of_mem_filterMap {pieces : List (List Char)} (hs : ∀ piece ∈ pieces, '/' ∉ piece) :
    ∀ c ∈ pieces.filterMap Component.ofPiece?, c.IsStep := by
  intro c hc
  obtain ⟨piece, hpiece, hof⟩ := List.mem_filterMap.1 hc
  exact isStep_of_ofPiece? (hs piece hpiece) hof

/-- A root or a `.` stands at the front of a path only. -/
theorem components_cases (p : Path) :
    ∃ cs, (∀ c ∈ cs, c.IsStep) ∧
      (p.components = .root :: cs ∨ p.components = .current :: cs ∨ p.components = cs) := by
  have hbody : ∀ c ∈ (anatomy p.text.toList).body.filterMap Component.ofPiece?, c.IsStep :=
    isStep_of_mem_filterMap fun _ => not_mem_of_mem_body
  refine ⟨_, hbody, ?_⟩
  rw [show p.components = (anatomy p.text.toList).components from rfl, Anatomy.components]
  rcases ofPieces_cases _ (Text.pieces_ne_nil '/' p.text.toList) with
    ⟨hf, -⟩ | ⟨body, hb⟩ | ⟨body, hb⟩
  · rw [← anatomy_eq] at hf
    rw [hf]
    exact .inr (.inr rfl)
  · rw [← anatomy_eq] at hb
    rw [hb]
    exact .inl rfl
  · rw [← anatomy_eq] at hb
    rw [hb]
    exact .inr (.inl rfl)

theorem isName_of_mem_names {n : String} (h : n ∈ p.names) : IsName n := by
  obtain ⟨cs, hcs, hp⟩ := p.components_cases
  obtain ⟨c, hc, hname⟩ := List.mem_filterMap.1 h
  have hn : c = .name n := by
    cases c with
    | name m => exact congrArg Component.name (Option.some.inj hname)
    | _ => cases hname
  rw [hn] at hc
  refine hcs (.name n) ?_
  rcases hp with hp | hp | hp <;> rw [hp] at hc <;> simpa using hc

/-- Steps are put behind a path one by one. -/
theorem components_foldl_join (h : ∀ c ∈ cs, c.IsStep) (p : Path) :
    (cs.foldl (fun p c => p.join c.toPath) p).components = p.components ++ cs := by
  induction cs generalizing p with
  | nil => simp
  | cons c cs ih =>
    rw [List.forall_mem_cons] at h
    have hjoin : (p.join c.toPath).components = p.components ++ [c] := by
      cases c with
      | root => exact h.1.elim
      | current => exact h.1.elim
      | parent => exact components_join isPiece_parent p
      | name n => exact components_join (IsName.isPiece h.1) p
    rw [List.foldl_cons, ih h.2, hjoin, List.append_assoc]
    rfl

/-! ## Settling -/

/-- A path settles piece by piece, an absolute one from the root directory. -/
theorem settle_eq_foldl (h : p.text ≠ "") (here : Location) :
    p.settle here
      = ((Text.pieces '/' p.text.toList).filterMap Component.ofPiece?).foldl Component.settle
          (if p.isAbsolute then [] else here) := by
  rw [settle, components_eq, isAbsolute]
  cases ht : p.text.toList with
  | nil => exact absurd (String.toList_inj.1 ht) h
  | cons a as =>
    by_cases ha : a = '/'
    · subst ha
      rw [Text.pieces_cons_sep, components_ofPieces_cons (.inr (Text.pieces_ne_nil _ _))]
      rfl
    · obtain ⟨q, qs, hq⟩ := List.exists_cons_of_ne_nil (Text.pieces_ne_nil '/' as)
      have hpieces : Text.pieces '/' (a :: as) = (a :: q) :: qs := by
        rw [Text.pieces, if_neg ha, hq]
      have hrel : (List.head? (a :: as) == some '/') = false := by simpa using ha
      rw [hpieces, components_ofPieces_cons (.inl (List.cons_ne_nil _ _)), hrel, leading,
        if_neg (List.cons_ne_nil _ _), if_neg Bool.false_ne_true]
      -- a `.` at the front stays where it is, and any other piece is a component
      split
      · rename_i hdot
        rw [hdot]
        rfl
      · cases hc : Component.ofPiece? (a :: q) <;> simp [hc]

theorem foldl_settle_names (ns : List String) (here : Location) :
    (ns.map .name).foldl Component.settle here = here ++ ns := by
  induction ns generalizing here with
  | nil => simp
  | cons n ns ih =>
    rw [List.map_cons, List.foldl_cons, ih, Component.settle, List.append_assoc]
    rfl

theorem settle_below (hn : ∀ n ∈ ns, IsName n) (dir : Path) (here : Location) :
    (dir.below ns).settle here = dir.settle here ++ ns := by
  rw [settle, components_below hn, List.foldl_append, foldl_settle_names, settle]

theorem IsPlain.settle (h : p.IsPlain) (here : Location) : p.settle here = p.names := by
  rw [Path.settle, h, List.foldl_cons, Component.settle, foldl_settle_names, List.nil_append]

/-- Without a `..`, steps are names. -/
theorem eq_map_name_of_isStep (h : ∀ c ∈ cs, c.IsStep) (hp : .parent ∉ cs) :
    cs = (cs.filterMap Component.name?).map .name := by
  induction cs with
  | nil => rfl
  | cons c cs ih =>
    rw [List.forall_mem_cons] at h
    rw [List.mem_cons, not_or] at hp
    cases c with
    | root => exact h.1.elim
    | current => exact h.1.elim
    | parent => exact absurd rfl hp.1
    | name n => exact congrArg (Component.name n :: ·) (ih h.2 hp.2)

end Path
end BulkSuppress
