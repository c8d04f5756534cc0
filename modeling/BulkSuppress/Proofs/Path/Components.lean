import BulkSuppress.Path.Basic

/-
  The components of the paths that a walk puts together and takes apart. The path of an entry has
  the components of its directory and the entry's name behind them (`components_child`), however
  the directory is written. Stripping a prefix takes the components of the prefix off the front
  and nothing else (`components_of_stripPrefix?`).
-/

namespace BulkSuppress

namespace Text

theorem pieces_of_not_mem {sep : Char} {cs : List Char} (h : sep ∉ cs) : pieces sep cs = [cs] := by
  induction cs with
  | nil => rfl
  | cons c cs ih =>
    rw [List.mem_cons, not_or] at h
    rw [pieces, if_neg (Ne.symm h.1), ih h.2]

/-- What a text starts with is what some piece starts with, if it has no separator. -/
theorem exists_mem_pieces {sep : Char} (front cs : List Char) (h : sep ∉ front) :
    ∃ piece ∈ pieces sep (front ++ cs), front <+: piece := by
  suffices hfirst : ∃ piece others, pieces sep (front ++ cs) = piece :: others ∧ front <+: piece by
    obtain ⟨piece, others, heq, hprefix⟩ := hfirst
    exact ⟨piece, by rw [heq]; exact List.mem_cons_self, hprefix⟩
  induction front with
  | nil =>
    obtain ⟨piece, others, heq⟩ := List.exists_cons_of_ne_nil (pieces_ne_nil sep cs)
    exact ⟨piece, others, heq, List.nil_prefix⟩
  | cons c front ih =>
    rw [List.mem_cons, not_or] at h
    obtain ⟨piece, others, heq, hprefix⟩ := ih h.2
    refine ⟨c :: piece, others, ?_, List.cons_prefix_cons.2 ⟨rfl, hprefix⟩⟩
    rw [List.cons_append, pieces, if_neg (Ne.symm h.1), heq]

theorem eq_nil_of_pieces_eq {sep : Char} {cs : List Char} (h : pieces sep cs = [[]]) : cs = [] := by
  cases cs with
  | nil => rfl
  | cons c cs =>
    rw [pieces] at h
    split at h
    · exact absurd (List.cons.inj h).2 (pieces_ne_nil sep cs)
    · split at h <;> simp at h

/-- Cutting takes apart what was joined. -/
theorem pieces_intercalate {sep : Char} {ps : List (List Char)} (hne : ps ≠ [])
    (h : ∀ p ∈ ps, sep ∉ p) : pieces sep ([sep].intercalate ps) = ps := by
  induction ps with
  | nil => exact absurd rfl hne
  | cons p ps ih =>
    rw [List.forall_mem_cons] at h
    have hp : pieces sep p = [p] := pieces_of_not_mem h.1
    cases ps with
    | nil => rw [List.intercalate_singleton, hp]
    | cons q qs =>
      rw [List.intercalate_cons_cons, List.append_assoc, List.singleton_append, pieces_append_sep,
        hp, ih (List.cons_ne_nil _ _) h.2]
      rfl

/-- Joining puts together what was cut. -/
theorem intercalate_pieces (sep : Char) (cs : List Char) :
    [sep].intercalate (pieces sep cs) = cs := by
  induction cs with
  | nil => rfl
  | cons c cs ih =>
    obtain ⟨p, ps, h⟩ := List.exists_cons_of_ne_nil (pieces_ne_nil sep cs)
    rw [h] at ih
    rw [pieces, h]
    split
    · rename_i hc
      rw [List.intercalate_cons_cons, ih, hc]
      rfl
    · rw [← ih]
      cases ps <;> simp

end Text

namespace Path

/-- A name that a directory can have an entry of. -/
def IsName (n : String) : Prop :=
  n ≠ "" ∧ n ≠ "." ∧ n ≠ ".." ∧ '/' ∉ n.toList

instance (n : String) : Decidable (IsName n) := inferInstanceAs (Decidable (_ ∧ _))

theorem IsName.ofPiece? {n : String} (h : IsName n) :
    Component.ofPiece? n.toList = some (.name n) := by
  have ne (m : String) (hm : n ≠ m) : n.toList ≠ m.toList := fun e => hm (String.toList_inj.1 e)
  have h0 : n.toList ≠ [] := ne "" h.1
  have h1 : n.toList ≠ ['.'] := ne "." h.2.1
  have h2 : n.toList ≠ ['.', '.'] := ne ".." h.2.2.1
  simp [Component.ofPiece?, h0, h1, h2]

variable {n : String} {p dir base : Path}

/-! ## What pieces stand for -/

/-- The anatomy of a text with the given pieces. -/
def Anatomy.ofPieces : List (List Char) → Anatomy
  | [] => ⟨none, []⟩
  | [[]] => ⟨none, []⟩
  | [] :: body => ⟨some .root, body⟩
  | ['.'] :: body => ⟨some .current, body⟩
  | body => ⟨none, body⟩

/-- The components of a text with the given anatomy. -/
def Anatomy.components (a : Anatomy) : List Component :=
  a.front.toList ++ a.body.filterMap Component.ofPiece?

theorem anatomy_eq (cs : List Char) : anatomy cs = .ofPieces (Text.pieces '/' cs) := rfl

theorem components_eq (p : Path) :
    p.components = (Anatomy.ofPieces (Text.pieces '/' p.text.toList)).components := rfl

theorem isIdle_iff {piece : List Char} : isIdle piece = true ↔ piece = [] ∨ piece = ['.'] := by
  unfold isIdle Component.ofPiece?
  by_cases h0 : piece = []
  · simp [h0]
  by_cases h1 : piece = ['.']
  · simp [h1]
  by_cases h2 : piece = ['.', '.'] <;> simp [h0, h1, h2]

/-- What the first piece of a text stands for. -/
def leading (piece : List Char) : List Component :=
  if piece = [] then [.root] else if piece = ['.'] then [.current]
  else (Component.ofPiece? piece).toList

/-- The first piece has a meaning of its own, any other one stands for itself. -/
theorem components_ofPieces_cons {piece : List Char} {ps : List (List Char)}
    (h : piece ≠ [] ∨ ps ≠ []) :
    (Anatomy.ofPieces (piece :: ps)).components
      = leading piece ++ ps.filterMap Component.ofPiece? := by
  by_cases h0 : piece = []
  · subst h0
    cases ps with
    | nil => simp at h
    | cons q qs => rfl
  by_cases h1 : piece = ['.']
  · subst h1; rfl
  have hbody : Anatomy.ofPieces (piece :: ps) = ⟨none, piece :: ps⟩ := by
    simp [Anatomy.ofPieces, h0, h1]
  rw [hbody, leading, if_neg h0, if_neg h1]
  cases hp : Component.ofPiece? piece <;> simp [Anatomy.components, hp]

theorem components_ofPieces_append {ps qs : List (List Char)} (hp : ps ≠ []) (hq : qs ≠ []) :
    (Anatomy.ofPieces (ps ++ qs)).components
      = (Anatomy.ofPieces (ps ++ [[]])).components ++ qs.filterMap Component.ofPiece? := by
  obtain ⟨p, ps, rfl⟩ := List.exists_cons_of_ne_nil hp
  rw [List.cons_append, components_ofPieces_cons (.inr (List.append_ne_nil_of_right_ne_nil _ hq)),
    List.cons_append, components_ofPieces_cons (.inr (by simp)), List.filterMap_append,
    List.filterMap_append, List.append_assoc, List.append_assoc]
  rfl

/-- A slash at the end stands for nothing, if it is not all there is. -/
theorem components_ofPieces_concat_nil {ps : List (List Char)} (hp : ps ≠ []) (h : ps ≠ [[]]) :
    (Anatomy.ofPieces (ps ++ [[]])).components = (Anatomy.ofPieces ps).components := by
  obtain ⟨p, ps, rfl⟩ := List.exists_cons_of_ne_nil hp
  have hne : p ≠ [] ∨ ps ≠ [] := by
    rw [Ne, List.cons.injEq, not_and] at h
    exact (Decidable.em (p = [])).elim (fun e => .inr (h e)) .inl
  rw [List.cons_append, components_ofPieces_cons (.inr (by simp)), components_ofPieces_cons hne,
    List.filterMap_append]
  simp [Component.ofPiece?]

/-! ## The path of an entry -/

/-- The pieces of a path that the name of an entry is put behind. -/
def stem (p : Path) : List (List Char) :=
  if p.text.toList.getLast? = some '/' then (Text.pieces '/' p.text.toList).dropLast
  else Text.pieces '/' p.text.toList

theorem pieces_of_endsInSlash (cs : List Char) :
    Text.pieces '/' (cs ++ ['/']) = Text.pieces '/' cs ++ [[]] :=
  Text.pieces_append_sep '/' cs []

theorem pieces_eq_stem (p : Path) :
    Text.pieces '/' p.text.toList = p.stem ∨ Text.pieces '/' p.text.toList = p.stem ++ [[]] := by
  unfold stem
  split
  · rename_i h
    obtain ⟨cs, hcs⟩ := List.getLast?_eq_some_iff.1 h
    right
    rw [hcs, pieces_of_endsInSlash, List.dropLast_concat]
  · exact .inl rfl

theorem stem_ne_nil (p : Path) : p.stem ≠ [] := by
  unfold stem
  split
  · rename_i h
    obtain ⟨cs, hcs⟩ := List.getLast?_eq_some_iff.1 h
    rw [hcs, pieces_of_endsInSlash, List.dropLast_concat]
    exact Text.pieces_ne_nil _ _
  · exact Text.pieces_ne_nil _ _

/-- A text that adds the one component `c` to a path it is put behind. -/
structure IsPiece (x : String) (c : Component) : Prop where
  noSlash : '/' ∉ x.toList
  ofPiece? : Component.ofPiece? x.toList = some c

theorem IsName.isPiece (h : IsName n) : IsPiece n (.name n) := ⟨h.2.2.2, h.ofPiece?⟩

theorem isPiece_parent : IsPiece ".." .parent := by constructor <;> decide

variable {x : String} {c : Component}

theorem IsPiece.toList_ne_nil (h : IsPiece x c) : x.toList ≠ [] := by
  intro e
  have hc := h.ofPiece?
  rw [e] at hc
  cases hc

theorem IsPiece.toList_ne_dot (h : IsPiece x c) : x.toList ≠ ['.'] := by
  intro e
  have hc := h.ofPiece?
  rw [e] at hc
  cases hc

theorem IsPiece.pieces (h : IsPiece x c) : Text.pieces '/' x.toList = [x.toList] :=
  Text.pieces_of_not_mem h.noSlash

theorem IsPiece.isAbsolute (h : IsPiece x c) : isAbsolute ⟨x⟩ = false := by
  unfold Path.isAbsolute
  cases hc : x.toList with
  | nil => exact absurd hc h.toList_ne_nil
  | cons a as =>
    have : a ≠ '/' := fun e => h.noSlash (by rw [hc, e]; exact List.mem_cons_self ..)
    simpa using this

theorem toList_join (hx : isAbsolute ⟨x⟩ = false) (dir : Path) :
    (dir.join ⟨x⟩).text.toList =
      if dir.text = "" then x.toList
      else if dir.text.toList.getLast? = some '/' then dir.text.toList ++ x.toList
      else dir.text.toList ++ '/' :: x.toList := by
  simp only [join, hx, Bool.false_or, String.isEmpty_iff, beq_iff_eq]
  split
  · rfl
  · split
    · rw [String.toList_append]
    · rw [String.toList_append, String.toList_append, List.append_assoc]
      rfl

/-- The text of a path with a relative one behind it, by the pieces it is cut into. -/
theorem pieces_join (hx : isAbsolute ⟨x⟩ = false) (h : dir.text ≠ "") :
    Text.pieces '/' (dir.join ⟨x⟩).text.toList = dir.stem ++ Text.pieces '/' x.toList := by
  rw [toList_join hx, if_neg h, stem]
  split
  · rename_i hs
    obtain ⟨cs, hcs⟩ := List.getLast?_eq_some_iff.1 hs
    rw [hcs, pieces_of_endsInSlash, List.dropLast_concat, List.append_assoc,
      List.singleton_append, Text.pieces_append_sep]
  · rw [Text.pieces_append_sep]

/-- With a slash behind them, the pieces that something is put behind are the path. -/
theorem components_stem (h : dir.text ≠ "") :
    (Anatomy.ofPieces (dir.stem ++ [[]])).components = dir.components := by
  rw [components_eq]
  rcases dir.pieces_eq_stem with he | he
  · rw [he, components_ofPieces_concat_nil dir.stem_ne_nil]
    exact fun hs => h (String.toList_inj.1 (Text.eq_nil_of_pieces_eq (he.trans hs)))
  · rw [he]

/-- A piece behind a path is one more component of the path. -/
theorem components_join (hx : IsPiece x c) (dir : Path) :
    (dir.join ⟨x⟩).components = dir.components ++ [c] := by
  by_cases h : dir.text = ""
  · have hd : dir.components = [] := by rw [components_eq, h]; rfl
    rw [components_eq, toList_join hx.isAbsolute, if_pos h, hx.pieces, hd,
      components_ofPieces_cons (.inl hx.toList_ne_nil), leading, if_neg hx.toList_ne_nil,
      if_neg hx.toList_ne_dot, hx.ofPiece?]
    rfl
  rw [components_eq, pieces_join hx.isAbsolute h, hx.pieces,
    components_ofPieces_append dir.stem_ne_nil (by simp), components_stem h]
  simp [hx.ofPiece?]

theorem IsName.toList_ne_nil (h : IsName n) : n.toList ≠ [] := h.isPiece.toList_ne_nil

theorem toList_child (hn : IsName n) (dir : Path) :
    (dir.child n).text.toList =
      if dir.text = "" then n.toList
      else if dir.text.toList.getLast? = some '/' then dir.text.toList ++ n.toList
      else dir.text.toList ++ '/' :: n.toList :=
  toList_join hn.isPiece.isAbsolute dir

theorem pieces_child (hn : IsName n) (h : dir.text ≠ "") :
    Text.pieces '/' (dir.child n).text.toList = dir.stem ++ [n.toList] := by
  rw [child, pieces_join hn.isPiece.isAbsolute h, hn.isPiece.pieces]

/-- An entry's path has the components of its directory and the entry's name. -/
theorem components_child (hn : IsName n) (dir : Path) :
    (dir.child n).components = dir.components ++ [.name n] :=
  components_join hn.isPiece dir

/-! ## Paths below a directory -/

/-- The path that the names lead to from a directory. -/
def below (dir : Path) (ns : List String) : Path :=
  ns.foldl child dir

@[simp] theorem below_nil (dir : Path) : dir.below [] = dir := rfl

theorem below_cons (dir : Path) (n : String) (ns : List String) :
    dir.below (n :: ns) = (dir.child n).below ns := rfl

theorem below_append (dir : Path) (ns ms : List String) :
    dir.below (ns ++ ms) = (dir.below ns).below ms :=
  List.foldl_append

theorem below_concat (dir : Path) (ns : List String) (n : String) :
    dir.below (ns ++ [n]) = (dir.below ns).child n :=
  below_append dir ns [n]

theorem components_below {ns : List String} (h : ∀ n ∈ ns, IsName n) (dir : Path) :
    (dir.below ns).components = dir.components ++ ns.map .name := by
  induction ns generalizing dir with
  | nil => simp
  | cons n ns ih =>
    rw [List.forall_mem_cons] at h
    rw [below_cons, ih h.2, components_child h.1, List.append_assoc]
    rfl

theorem text_child_ne_empty (hn : IsName n) (dir : Path) : (dir.child n).text ≠ "" := by
  intro e
  have h := toList_child hn dir
  rw [e] at h
  have hnil := hn.toList_ne_nil
  split at h
  · exact hnil h.symm
  · split at h <;> simp [hnil] at h

theorem stem_child (hn : IsName n) (h : dir.text ≠ "") :
    (dir.child n).stem = dir.stem ++ [n.toList] := by
  have hlast : (dir.child n).text.toList.getLast? ≠ some '/' := by
    have hself : n.toList.getLast? ≠ some '/' := fun e => hn.2.2.2 (List.mem_of_getLast? e)
    obtain ⟨cs, c, hc⟩ : ∃ cs c, n.toList = cs ++ [c] :=
      ⟨_, _, (List.dropLast_concat_getLast hn.toList_ne_nil).symm⟩
    rw [hc, List.getLast?_concat] at hself
    rw [toList_child hn, if_neg h, hc]
    split
    · rwa [← List.append_assoc, List.getLast?_concat]
    · rwa [← List.cons_append, ← List.append_assoc, List.getLast?_concat]
  rw [stem, if_neg hlast, pieces_child hn h]

theorem isAbsolute_child (hn : IsName n) (h : dir.text ≠ "") :
    (dir.child n).isAbsolute = dir.isAbsolute := by
  have hne : dir.text.toList ≠ [] := fun e => h (String.toList_inj.1 e)
  unfold isAbsolute
  rw [toList_child hn, if_neg h]
  obtain ⟨c, cs, hc⟩ := List.exists_cons_of_ne_nil hne
  split <;> rw [hc] <;> rfl

variable {ns : List String}

theorem text_below_ne_empty (hn : ∀ n ∈ ns, IsName n) (h : dir.text ≠ "") :
    (dir.below ns).text ≠ "" := by
  induction ns generalizing dir with
  | nil => exact h
  | cons n ns ih =>
    rw [List.forall_mem_cons] at hn
    exact ih hn.2 (text_child_ne_empty hn.1 dir)

theorem stem_below (hn : ∀ n ∈ ns, IsName n) (h : dir.text ≠ "") :
    (dir.below ns).stem = dir.stem ++ ns.map String.toList := by
  induction ns generalizing dir with
  | nil => simp
  | cons n ns ih =>
    rw [List.forall_mem_cons] at hn
    rw [below_cons, ih hn.2 (text_child_ne_empty hn.1 dir), stem_child hn.1 h, List.append_assoc]
    rfl

theorem isAbsolute_below (hn : ∀ n ∈ ns, IsName n) (h : dir.text ≠ "") :
    (dir.below ns).isAbsolute = dir.isAbsolute := by
  induction ns generalizing dir with
  | nil => rfl
  | cons n ns ih =>
    rw [List.forall_mem_cons] at hn
    rw [below_cons, ih hn.2 (text_child_ne_empty hn.1 dir), isAbsolute_child hn.1 h]

/-- The text of a path below a directory, by the pieces it is cut into. -/
theorem pieces_below (hn : ∀ n ∈ ns, IsName n) (h : dir.text ≠ "") (hne : ns ≠ []) :
    Text.pieces '/' (dir.below ns).text.toList = dir.stem ++ ns.map String.toList := by
  obtain ⟨ms, m, rfl⟩ : ∃ ms m, ns = ms ++ [m] := ⟨_, _, (List.dropLast_concat_getLast hne).symm⟩
  have hms : ∀ n ∈ ms, IsName n := fun n h => hn n (List.mem_append_left _ h)
  rw [below_concat, pieces_child (hn m (by simp)) (text_below_ne_empty hms h), stem_below hms h,
    List.map_append, List.append_assoc]
  rfl

/-! ## Stripping a prefix -/

theorem filterMap_dropWhile_isIdle (body : List (List Char)) :
    (body.dropWhile isIdle).filterMap Component.ofPiece? = body.filterMap Component.ofPiece? := by
  induction body with
  | nil => rfl
  | cons piece body ih =>
    by_cases h : isIdle piece = true
    · rw [List.dropWhile_cons_of_pos h, ih, List.filterMap_cons_none (by simpa [isIdle] using h)]
    · rw [List.dropWhile_cons_of_neg h]

theorem filterMap_trimPieces (body : List (List Char)) :
    (trimPieces body).filterMap Component.ofPiece? = body.filterMap Component.ofPiece? := by
  rw [trimPieces, List.filterMap_reverse, filterMap_dropWhile_isIdle, List.filterMap_reverse,
    List.reverse_reverse]

theorem filterMap_dropPieces (n : Nat) (body : List (List Char)) :
    (dropPieces n body).filterMap Component.ofPiece?
      = (body.filterMap Component.ofPiece?).drop n := by
  fun_induction dropPieces n body with
  | case1 body => rfl
  | case2 n => simp
  | case3 n piece body h ih => rw [ih, List.filterMap_cons_none (by simpa [isIdle] using h)]
  | case4 n piece body h ih =>
    obtain ⟨c, hc⟩ := Option.ne_none_iff_exists'.1 (by simpa [isIdle] using h)
    rw [ih, List.filterMap_cons_some hc, List.drop_succ_cons]

/-- Trimming is from the end only, so that a name at the front stays there. -/
theorem trimPieces_cons {piece : List Char} (h : isIdle piece = false) (body : List (List Char)) :
    trimPieces (piece :: body) = piece :: trimPieces body := by
  have hp : [piece].dropWhile isIdle = [piece] := List.dropWhile_cons_of_neg (by simp [h])
  rw [trimPieces, trimPieces, List.reverse_cons, List.dropWhile_append, hp]
  split
  · rename_i he
    rw [List.isEmpty_iff.1 he]
    rfl
  · rw [List.reverse_append]
    rfl

theorem trimPieces_sublist (body : List (List Char)) : (trimPieces body).Sublist body := by
  have h := (List.dropWhile_sublist isIdle (l := body.reverse)).reverse
  rwa [List.reverse_reverse] at h

theorem dropPieces_sublist (n : Nat) (body : List (List Char)) :
    (dropPieces n body).Sublist body := by
  fun_induction dropPieces n body with
  | case1 body => exact .refl _
  | case2 n => exact .refl _
  | case3 n piece body h ih => exact ih.cons _
  | case4 n piece body h ih => exact ih.cons _

/-- Pieces of which the first is a name, or none at all. -/
def StartsWithName (body : List (List Char)) : Prop :=
  ∀ piece ∈ body.head?, isIdle piece = false

theorem startsWithName_dropWhile (body : List (List Char)) :
    StartsWithName (body.dropWhile isIdle) := by
  intro piece h
  have := List.head?_dropWhile_not isIdle body
  rwa [Option.mem_def.1 h] at this

theorem StartsWithName.trimPieces {body : List (List Char)} (h : StartsWithName body) :
    StartsWithName (trimPieces body) := by
  cases body with
  | nil => exact h
  | cons piece body =>
    have hp := h piece rfl
    rw [trimPieces_cons hp]
    exact fun _ hq => Option.some.inj hq ▸ hp

/-- A text of names between slashes has the components that its pieces stand for. -/
theorem components_unpieces {body : List (List Char)} (hs : StartsWithName body)
    (h : ∀ piece ∈ body, '/' ∉ piece) :
    components ⟨unpieces body⟩ = body.filterMap Component.ofPiece? := by
  cases body with
  | nil => rfl
  | cons piece body =>
    have hp : isIdle piece = false := hs piece rfl
    have h0 : piece ≠ [] := fun e => by simp [isIdle_iff.2 (.inl e)] at hp
    have h1 : piece ≠ ['.'] := fun e => by simp [isIdle_iff.2 (.inr e)] at hp
    rw [components_eq, unpieces, String.toList_ofList,
      Text.pieces_intercalate (List.cons_ne_nil _ _) h, components_ofPieces_cons (.inl h0), leading,
      if_neg h0, if_neg h1]
    cases hc : Component.ofPiece? piece <;> simp [hc]

/-- The front that a text can have, and what its pieces are by it. -/
theorem ofPieces_cases (ps : List (List Char)) (hp : ps ≠ []) :
    (Anatomy.ofPieces ps).front = none ∧ StartsWithName (Anatomy.ofPieces ps).body ∨
      (∃ body, Anatomy.ofPieces ps = ⟨some .root, body⟩) ∨
      ∃ body, Anatomy.ofPieces ps = ⟨some .current, body⟩ := by
  obtain ⟨piece, ps, rfl⟩ := List.exists_cons_of_ne_nil hp
  by_cases h0 : piece = []
  · subst h0
    cases ps with
    | nil => exact .inl ⟨rfl, fun _ h => by cases h⟩
    | cons q qs => exact .inr (.inl ⟨_, rfl⟩)
  by_cases h1 : piece = ['.']
  · subst h1; exact .inr (.inr ⟨_, rfl⟩)
  left
  have hbody : Anatomy.ofPieces (piece :: ps) = ⟨none, piece :: ps⟩ := by
    simp [Anatomy.ofPieces, h0, h1]
  rw [hbody]
  refine ⟨rfl, fun _ hq => Option.some.inj hq ▸ ?_⟩
  rw [← Bool.not_eq_true, isIdle_iff]
  exact fun h => h.elim h0 h1

theorem body_ofPieces_sublist (ps : List (List Char)) : (Anatomy.ofPieces ps).body.Sublist ps := by
  unfold Anatomy.ofPieces
  split
  · exact .refl _
  · exact List.nil_sublist _
  · exact List.sublist_cons_self ..
  · exact List.sublist_cons_self ..
  · exact .refl _

theorem not_mem_of_mem_body {cs piece : List Char} (h : piece ∈ (anatomy cs).body) :
    '/' ∉ piece :=
  Text.not_mem_of_mem_pieces ((body_ofPieces_sublist _).subset h)

/-- The components of a text that starts with a piece of its own and goes on with others. -/
theorem components_of_toList (piece : List Char) {ps : List (List Char)} (hp : '/' ∉ piece)
    (hps : ∀ q ∈ ps, '/' ∉ q) (h : p.text.toList = piece ++ '/' :: ['/'].intercalate ps) :
    p.components = leading piece ++ ps.filterMap Component.ofPiece? := by
  rw [components_eq, h, Text.pieces_append_sep, Text.pieces_of_not_mem hp, List.singleton_append,
    components_ofPieces_cons (.inr (Text.pieces_ne_nil _ _))]
  cases ps with
  | nil => rfl
  | cons q qs => rw [Text.pieces_intercalate (List.cons_ne_nil _ _) hps]

/-- Idle pieces at the end make no difference to the components. -/
theorem components_trimmedText (p : Path) : components ⟨p.trimmedText⟩ = p.components := by
  have hmem {piece} (h : piece ∈ trimPieces (anatomy p.text.toList).body) : '/' ∉ piece :=
    not_mem_of_mem_body ((trimPieces_sublist _).subset h)
  rw [show p.components = (anatomy p.text.toList).components from rfl, Anatomy.components,
    ← filterMap_trimPieces]
  unfold trimmedText
  rcases ofPieces_cases _ (Text.pieces_ne_nil '/' p.text.toList) with
    ⟨hf, hb⟩ | ⟨body, hb⟩ | ⟨body, hb⟩
  · rw [← anatomy_eq] at hf hb
    simp only [hf]
    exact components_unpieces hb.trimPieces fun _ => hmem
  · rw [← anatomy_eq] at hb
    simp only [hb] at hmem ⊢
    exact components_of_toList [] List.not_mem_nil (fun _ => hmem) (by simp [unpieces])
  · rw [← anatomy_eq] at hb
    simp only [hb] at hmem ⊢
    cases ht : trimPieces body with
    | nil => rfl
    | cons q qs =>
      refine components_of_toList ['.'] (by decide) (fun _ h => hmem (ht ▸ h)) ?_
      simp [unpieces, Component.toPath]

theorem isSome_stripPrefix? (p base : Path) :
    (p.stripPrefix? base).isSome = base.components.isPrefixOf p.components := by
  simp only [stripPrefix?]
  split <;> rename_i h
  · rw [h]; split <;> rfl
  · rw [Bool.not_eq_true] at h; rw [h]; rfl

/-- There are no slashes in the pieces that are left when a prefix is stripped. -/
theorem not_mem_of_mem_remaining {cs piece : List Char} {n : Nat}
    (h : piece ∈ trimPieces ((dropPieces n (anatomy cs).body).dropWhile isIdle)) : '/' ∉ piece :=
  not_mem_of_mem_body <| (dropPieces_sublist _ _).subset <| (List.dropWhile_sublist _).subset <|
    (trimPieces_sublist _).subset h

/-- Stripping a prefix takes its components off the front. -/
theorem components_of_stripPrefix? {q : Path} (h : p.stripPrefix? base = some q) :
    p.components = base.components ++ q.components := by
  have hpre : base.components.isPrefixOf p.components = true := by
    rw [← isSome_stripPrefix?, h]; rfl
  obtain ⟨rest, hrest⟩ := List.isPrefixOf_iff_prefix.1 hpre
  suffices hq : q.components = p.components.drop base.components.length by
    rw [hq, ← hrest, List.drop_left]
  simp only [stripPrefix?, hpre, if_true] at h
  cases hlen : base.components.length with
  | zero =>
    simp only [hlen, Option.some.injEq] at h
    rw [← h, components_trimmedText, List.drop_zero]
  | succ n =>
    simp only [hlen, Option.some.injEq] at h
    -- what is left starts with a name, so that its pieces stand for themselves
    rw [← h, components_unpieces (startsWithName_dropWhile _).trimPieces, filterMap_trimPieces,
      filterMap_dropWhile_isIdle, filterMap_dropPieces]
    · rw [show p.components = (anatomy p.text.toList).components from rfl, Anatomy.components]
      cases (anatomy p.text.toList).front <;> rfl
    · exact fun _ => not_mem_of_mem_remaining

/-- What starts with a name is relative. -/
theorem isAbsolute_unpieces {body : List (List Char)} (hs : StartsWithName body)
    (h : ∀ piece ∈ body, '/' ∉ piece) : isAbsolute ⟨unpieces body⟩ = false := by
  cases body with
  | nil => rfl
  | cons piece body =>
    have hp : isIdle piece = false := hs piece rfl
    have hne : piece ≠ [] := fun e => by simp [isIdle_iff.2 (.inl e)] at hp
    obtain ⟨c, cs, rfl⟩ := List.exists_cons_of_ne_nil hne
    have hc : c ≠ '/' := fun e => h _ List.mem_cons_self (e ▸ List.mem_cons_self)
    cases body <;> simp [isAbsolute, unpieces, List.intercalate_cons_cons, hc]

/-- What starts with a name goes on where a path that it is put behind ends. -/
theorem components_join_unpieces {body : List (List Char)} (hs : StartsWithName body)
    (h : ∀ piece ∈ body, '/' ∉ piece) (hbase : base.text ≠ "") :
    (base.join ⟨unpieces body⟩).components = base.components ++ components ⟨unpieces body⟩ := by
  rw [components_eq, pieces_join (isAbsolute_unpieces hs h) hbase,
    components_ofPieces_append base.stem_ne_nil (Text.pieces_ne_nil _ _), components_stem hbase,
    components_unpieces hs h, unpieces, String.toList_ofList]
  cases body with
  | nil => rfl
  | cons piece body => rw [Text.pieces_intercalate (List.cons_ne_nil _ _) h]

/-- What is stripped off an absolute path is a text that starts with a name, or none at all. -/
theorem exists_unpieces_of_stripPrefix? {q : Path} (hbase : base.components ≠ [])
    (h : p.stripPrefix? base = some q) :
    ∃ body, q = ⟨unpieces body⟩ ∧ StartsWithName body ∧ ∀ piece ∈ body, '/' ∉ piece := by
  have hpre : base.components.isPrefixOf p.components = true := by
    rw [← isSome_stripPrefix?, h]; rfl
  simp only [stripPrefix?, hpre, if_true] at h
  cases hlen : base.components.length with
  | zero => exact absurd (List.length_eq_zero_iff.1 hlen) hbase
  | succ n =>
    simp only [hlen, Option.some.injEq] at h
    exact ⟨_, h.symm, (startsWithName_dropWhile _).trimPieces, fun _ => not_mem_of_mem_remaining⟩

/-- What is left of a path is the path again when it is seen from what was stripped off. -/
theorem components_join_stripPrefix? {q : Path} (hbase : base.isAbsolute = true)
    (h : p.stripPrefix? base = some q) : (base.join q).components = p.components := by
  obtain ⟨cs, hcs⟩ := List.head?_eq_some_iff.1 (eq_of_beq hbase)
  have hne : base.text ≠ "" := fun e => by simp [e] at hcs
  have hcomp : base.components ≠ [] := by
    rw [components_eq, hcs, Text.pieces, if_pos rfl,
      components_ofPieces_cons (.inr (Text.pieces_ne_nil _ _))]
    exact List.cons_ne_nil _ _
  obtain ⟨body, rfl, hs, hslash⟩ := exists_unpieces_of_stripPrefix? hcomp h
  rw [components_join_unpieces hs hslash hne, components_of_stripPrefix? h]

theorem slashed_cons {m : String} {names : List String} (h : names ≠ []) :
    (slashed (m :: names)).toList = m.toList ++ '/' :: (slashed names).toList := by
  obtain ⟨n, names, rfl⟩ := List.exists_cons_of_ne_nil h
  simp [slashed, unpieces, List.intercalate_cons_cons]

theorem toList_slashed_singleton (m : String) : (slashed [m]).toList = m.toList := by
  simp [slashed, unpieces]

theorem toList_slashed_append {ms ns : List String} (hm : ms ≠ []) (hn : ns ≠ []) :
    (slashed (ms ++ ns)).toList = (slashed ms).toList ++ '/' :: (slashed ns).toList := by
  induction ms with
  | nil => exact absurd rfl hm
  | cons m ms ih =>
    rw [List.cons_append, slashed_cons (List.append_ne_nil_of_right_ne_nil _ hn)]
    cases ms with
    | nil => rw [List.nil_append, toList_slashed_singleton]
    | cons k ms =>
      rw [ih (List.cons_ne_nil _ _), slashed_cons (List.cons_ne_nil _ _), List.append_assoc,
        List.cons_append]

/-- The last name of a path stands by itself, or behind a slash. -/
theorem toList_slashed_concat (above : List String) (n : String) :
    (slashed (above ++ [n])).toList = n.toList ∨
      ∃ front, (slashed (above ++ [n])).toList = front ++ '/' :: n.toList := by
  cases above with
  | nil => exact .inl (toList_slashed_singleton n)
  | cons m above =>
    refine .inr ⟨(slashed (m :: above)).toList, ?_⟩
    rw [toList_slashed_append (List.cons_ne_nil m above) (List.cons_ne_nil n []),
      toList_slashed_singleton]

/-- The names are what stands between the slashes. -/
theorem pieces_slashed {ns : List String} (hne : ns ≠ []) (h : ∀ n ∈ ns, '/' ∉ n.toList) :
    Text.pieces '/' (slashed ns).toList = ns.map String.toList := by
  have hpieces : ∀ piece ∈ ns.map String.toList, '/' ∉ piece := by
    intro piece hmem
    obtain ⟨n, hn, rfl⟩ := List.mem_map.1 hmem
    exact h n hn
  rw [slashed, unpieces, String.toList_ofList, Text.pieces_intercalate (by simpa using hne) hpieces]

theorem names_map_name (ns : List String) :
    (ns.map Component.name).filterMap Component.name? = ns := by
  rw [List.filterMap_map]
  exact List.filterMap_some

theorem filterMap_ofPiece?_names (h : ∀ n ∈ ns, IsName n) :
    (ns.map String.toList).filterMap Component.ofPiece? = ns.map .name := by
  induction ns with
  | nil => rfl
  | cons n ns ih =>
    rw [List.forall_mem_cons] at h
    rw [List.map_cons, List.filterMap_cons_some h.1.ofPiece?, ih h.2, List.map_cons]

/-- Names with slashes between them are the components of a relative path. -/
theorem components_slashed (h : ∀ n ∈ ns, IsName n) :
    components ⟨slashed ns⟩ = ns.map .name := by
  rw [slashed, components_unpieces, filterMap_ofPiece?_names h]
  · intro piece hmem
    obtain ⟨n, hn, rfl⟩ := List.mem_map.1 (List.mem_of_head? hmem)
    simp [isIdle, (h n hn).ofPiece?]
  · intro piece hmem
    obtain ⟨n, hn, rfl⟩ := List.mem_map.1 hmem
    exact (h n hn).2.2.2

theorem slashed_inj {ms : List String} (hm : ∀ m ∈ ms, IsName m) (hn : ∀ n ∈ ns, IsName n)
    (h : slashed ms = slashed ns) : ms = ns := by
  have hc : components ⟨slashed ms⟩ = components ⟨slashed ns⟩ := by rw [h]
  rw [components_slashed hm, components_slashed hn] at hc
  rw [← names_map_name ms, hc, names_map_name]

/-- A text of names goes on behind a slash with further names. -/
theorem slashed_eq_append_slash_iff {ms : List String} {cs : List Char} (hne : ms ≠ [])
    (hm : ∀ m ∈ ms, IsName m) (hn : ∀ n ∈ ns, IsName n) :
    (slashed ns).toList = (slashed ms).toList ++ '/' :: cs ↔
      ∃ rest, rest ≠ [] ∧ ns = ms ++ rest ∧ cs = (slashed rest).toList := by
  constructor
  · intro h
    have hns : ns ≠ [] := by
      rintro rfl
      simp [slashed, unpieces] at h
    have hpieces := congrArg (Text.pieces '/') h
    rw [Text.pieces_append_sep, pieces_slashed hns fun n h => (hn n h).2.2.2,
      pieces_slashed hne fun m h => (hm m h).2.2.2] at hpieces
    obtain ⟨front, rest, rfl, hfront, hrest⟩ := List.map_eq_append_iff.1 hpieces
    cases (List.map_inj_right fun _ _ => String.toList_inj.1).1 hfront
    refine ⟨rest, ?_, rfl, ?_⟩
    · rintro rfl
      exact Text.pieces_ne_nil '/' cs hrest.symm
    · rw [slashed, unpieces, hrest, Text.intercalate_pieces, String.toList_ofList]
  · rintro ⟨rest, hrest, rfl, rfl⟩
    exact toList_slashed_append hne hrest

/-- The names of a path are those among its pieces, what stands at its front being none. -/
theorem names_eq_filterMap_pieces (p : Path) :
    p.names = ((Text.pieces '/' p.text.toList).filterMap Component.ofPiece?).filterMap
      Component.name? := by
  rw [names, components_eq]
  obtain ⟨piece, ps, hps⟩ := List.exists_cons_of_ne_nil (Text.pieces_ne_nil '/' p.text.toList)
  rw [hps]
  by_cases h : piece = [] ∧ ps = []
  · obtain ⟨rfl, rfl⟩ := h
    rfl
  · rw [components_ofPieces_cons (Decidable.not_and_iff_not_or_not.1 h), leading,
      List.filterMap_append]
    split
    · subst piece
      rfl
    · split
      · subst piece
        rfl
      · cases hc : Component.ofPiece? piece with
        | none => rw [List.filterMap_cons_none hc]; rfl
        | some c =>
          rw [List.filterMap_cons_some hc, ← List.singleton_append (x := c),
            List.filterMap_append]
          rfl

/-- A relative path that is put behind a path adds its names. -/
theorem names_join (hq : q.isAbsolute = false) (p : Path) :
    (p.join q).names = p.names ++ q.names := by
  by_cases hp : p.text = ""
  · have hjoin : p.join q = q := by simp [join, hp]
    have hnone : p.names = [] := by rw [names_eq_filterMap_pieces, hp]; rfl
    rw [hjoin, hnone, List.nil_append]
  · obtain ⟨text⟩ := q
    rw [names, components_eq, pieces_join hq hp,
      components_ofPieces_append p.stem_ne_nil (Text.pieces_ne_nil _ _), components_stem hp,
      List.filterMap_append, ← names, names_eq_filterMap_pieces ⟨text⟩]

theorem names_child (hn : IsName n) (dir : Path) : (dir.child n).names = dir.names ++ [n] := by
  rw [names, components_child hn, List.filterMap_append]
  rfl

/-- What lies below a directory is seen, from wherever the directory is, by further names. -/
theorem exists_stripPrefix?_below {q : Path} (hn : ∀ n ∈ ns, IsName n)
    (hq : dir.stripPrefix? base = some q) :
    ∃ r, (dir.below ns).stripPrefix? base = some r ∧ r.names = q.names ++ ns := by
  have hcomp : (dir.below ns).components = base.components ++ (q.components ++ ns.map .name) := by
    rw [components_below hn, components_of_stripPrefix? hq, List.append_assoc]
  have hsome : ((dir.below ns).stripPrefix? base).isSome = true := by
    rw [isSome_stripPrefix?, hcomp]
    exact List.isPrefixOf_iff_prefix.2 (List.prefix_append _ _)
  obtain ⟨r, hr⟩ := Option.isSome_iff_exists.1 hsome
  rw [components_of_stripPrefix? hr, List.append_cancel_left_eq] at hcomp
  exact ⟨r, hr, by rw [names, hcomp, List.filterMap_append, names_map_name, names]⟩

theorem exists_stripPrefix?_self (dir : Path) :
    ∃ q, dir.stripPrefix? dir = some q ∧ q.names = [] := by
  have hsome : (dir.stripPrefix? dir).isSome = true := by
    rw [isSome_stripPrefix?]
    exact List.isPrefixOf_iff_prefix.2 (List.prefix_refl _)
  obtain ⟨q, hq⟩ := Option.isSome_iff_exists.1 hsome
  have hc := components_of_stripPrefix? hq
  rw [List.self_eq_append_right] at hc
  exact ⟨q, hq, by rw [names, hc]; rfl⟩

theorem below_inj {ms : List String} (hn : ∀ n ∈ ns, IsName n) (hm : ∀ m ∈ ms, IsName m)
    (h : dir.below ns = dir.below ms) : ns = ms := by
  have hc := congrArg components h
  rw [components_below hn, components_below hm, List.append_cancel_left_eq] at hc
  rw [← names_map_name ns, hc, names_map_name]

end Path
end BulkSuppress
