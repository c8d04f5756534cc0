import BulkSuppress.Proofs.Discovery.Hidden
import BulkSuppress.Proofs.Exclusion.Defaults
import BulkSuppress.Proofs.Session.Startup

/-
  Directories named in the base or in front of the pattern. Names without wildcards stand for
  themselves in a pattern, so that `src/**` picks from the project root what `**` picks from the
  base `src` (`isMatch_behind_names`). The exclusions are told the same names either way, those from
  the project root. So a discoverer can be split anywhere between base and pattern
  (`selects_split`), but for one path, the base itself: `**` matches the empty path that is left of
  it, and `src/**` asks for a slash (`selects_base`).
-/

namespace BulkSuppress

namespace Glob

variable {front start : Bool} {xs cs : List Char} {us : List Token}

/-! ## Literals in front of a pattern -/

/-- A character that stands for itself wherever a pattern has it. -/
def IsLiteral (c : Char) : Prop := c ≠ '*' ∧ c ≠ '?' ∧ c ≠ '['

instance (c : Char) : Decidable (IsLiteral c) := inferInstanceAs (Decidable (_ ∧ _))

theorem startsBehind_slash : startsBehind start (xs ++ ['/']) = true := by
  simp [startsBehind]

theorem spells_nil_iff : Spells front [] us ↔ us = [] :=
  ⟨fun h => by cases h; rfl, fun h => h ▸ .nil⟩

theorem spells_literals_iff (h : ∀ c ∈ xs, IsLiteral c) :
    Spells front (xs ++ cs) us ↔
      ∃ ts, us = xs.map .literal ++ ts ∧ Spells (startsBehind front xs) cs ts := by
  induction xs generalizing front us with
  | nil => simp [startsBehind]
  | cons x xs ih =>
    rw [List.forall_mem_cons] at h
    rw [List.cons_append, spells_literal_iff h.1]
    constructor
    · rintro ⟨us, rfl, hus⟩
      obtain ⟨ts, rfl, hts⟩ := (ih h.2).1 hus
      exact ⟨ts, rfl, hts⟩
    · rintro ⟨ts, rfl, hts⟩
      exact ⟨_, rfl, (ih h.2).2 ⟨ts, rfl, hts⟩⟩

open BulkSuppress.Path (IsName)

variable {bs ns : List String} {pattern : String} {pieces : List (List Char)} {g h : Glob}

/-! ## Names in front of a pattern -/

theorem behindSlashes_eq (hne : pieces ≠ []) :
    behindSlashes pieces = '/' :: ['/'].intercalate pieces := by
  obtain ⟨piece, pieces, rfl⟩ := List.exists_cons_of_ne_nil hne
  rw [intercalate_cons]
  rfl

theorem behindSlashes_append (ps qs : List (List Char)) :
    behindSlashes (ps ++ qs) = behindSlashes ps ++ behindSlashes qs :=
  List.flatMap_append

theorem solid_append (ps qs : List (List Char)) : solid (ps ++ qs) = solid ps ++ solid qs :=
  List.filter_append ..

theorem intercalate_solid_eq_nil_iff :
    ['/'].intercalate (solid pieces) = [] ↔ solid pieces = [] := by
  refine ⟨fun h => ?_, fun h => by rw [h]; rfl⟩
  cases hs : solid pieces with
  | nil => rfl
  | cons piece rest =>
    have hsolid : Path.isIdle piece = false := by
      have hmem : piece ∈ solid pieces := by rw [hs]; exact List.mem_cons_self
      simpa using (List.mem_filter.1 hmem).2
    rw [hs, intercalate_cons, List.append_eq_nil_iff] at h
    rw [Path.isIdle_iff.2 (.inl h.1)] at hsolid
    cases hsolid

/-- Of a pattern that does not start with a slash, normalization leaves the solid pieces. -/
theorem toList_normalizeSource_relative (hfront : pattern.toList.head? ≠ some '/') :
    (normalizeSource pattern).toList
      = ['/'].intercalate (solid (Text.pieces '/' pattern.toList)) := by
  obtain ⟨piece, pieces, hpieces⟩ :=
    List.exists_cons_of_ne_nil (Text.pieces_ne_nil '/' pattern.toList)
  have htext : pattern.toList = piece ++ behindSlashes pieces := by
    rw [← intercalate_cons, ← hpieces, Text.intercalate_pieces]
  rw [toList_normalizeSource hpieces, hpieces, solid, solid]
  split
  · rename_i hdot
    rw [List.filter_cons_of_neg (by simp [Path.isIdle_iff.2 (.inr hdot)])]
  rename_i hdot
  by_cases hnil : piece = []
  · -- only the empty pattern starts with an empty piece
    cases pieces with
    | nil => subst hnil; rfl
    | cons next pieces => simp [htext, hnil, behindSlashes] at hfront
  · have hsolid : Path.isIdle piece = false := by
      rw [← Bool.not_eq_true, Path.isIdle_iff]
      exact fun hidle => hidle.elim hnil hdot
    rw [List.filter_cons_of_pos (by simp [hsolid]), intercalate_cons]

theorem solid_map_toList (hn : ∀ n ∈ ns, IsName n) :
    solid (ns.map String.toList) = ns.map String.toList := by
  refine List.filter_eq_self.2 fun piece hpiece => ?_
  obtain ⟨n, hmem, rfl⟩ := List.mem_map.1 hpiece
  simp [Path.isIdle, (hn n hmem).ofPiece?]

/-- Names in front of a pattern stay there, and the pattern is normalized by itself. -/
theorem normalizeSource_behind (hne : bs ≠ []) (hb : ∀ n ∈ bs, IsName n)
    (hfront : pattern.toList.head? ≠ some '/') :
    normalizeSource (Path.slashed bs ++ "/" ++ pattern) =
      if normalizeSource pattern = "" then Path.slashed bs
      else Path.slashed bs ++ "/" ++ normalizeSource pattern := by
  have htext : (normalizeSource (Path.slashed bs ++ "/" ++ pattern)).toList
      = (Path.slashed bs).toList ++ behindSlashes (solid (Text.pieces '/' pattern.toList)) := by
    have hpieces : Text.pieces '/' (Path.slashed bs ++ "/" ++ pattern).toList
        = bs.map String.toList ++ Text.pieces '/' pattern.toList := by
      rw [← Path.pieces_slashed hne fun n hn => (hb n hn).2.2.2, ← Text.pieces_append_sep]
      simp
    obtain ⟨n, ns, rfl⟩ := List.exists_cons_of_ne_nil hne
    rw [List.forall_mem_cons] at hb
    rw [List.map_cons, List.cons_append] at hpieces
    rw [toList_normalizeSource hpieces, if_neg hb.1.isPiece.toList_ne_dot, solid_append,
      solid_map_toList hb.2, behindSlashes_append, ← List.append_assoc,
      ← intercalate_cons n.toList, Path.slashed, Path.unpieces, String.toList_ofList, List.map_cons]
  have hempty : normalizeSource pattern = "" ↔ solid (Text.pieces '/' pattern.toList) = [] := by
    rw [← intercalate_solid_eq_nil_iff, ← toList_normalizeSource_relative hfront,
      String.toList_eq_nil_iff]
  rw [← String.toList_inj, htext]
  split
  · rename_i h
    rw [hempty.1 h]
    simp [behindSlashes]
  · rename_i h
    rw [behindSlashes_eq (mt hempty.2 h), ← toList_normalizeSource_relative hfront]
    simp

theorem isLiteral_slashed (hplain : ∀ n ∈ bs, ∀ c ∈ n.toList, IsLiteral c) :
    ∀ c ∈ (Path.slashed bs).toList, IsLiteral c := by
  induction bs with
  | nil => exact List.forall_mem_nil _
  | cons n bs ih =>
    rw [List.forall_mem_cons] at hplain
    cases bs with
    | nil =>
      rw [Path.toList_slashed_singleton]
      exact hplain.1
    | cons m bs =>
      rw [Path.slashed_cons (List.cons_ne_nil _ _)]
      intro c hc
      rcases List.mem_append.1 hc with hc | hc
      · exact hplain.1 c hc
      · rcases List.mem_cons.1 hc with rfl | hc
        · decide
        · exact ih hplain.2 c hc

/-- Names with nothing behind them are a pattern for their own path. -/
theorem isMatch_names (hb : ∀ n ∈ bs, IsName n) (hplain : ∀ n ∈ bs, ∀ c ∈ n.toList, IsLiteral c)
    (hn : ∀ n ∈ ns, IsName n) (hg : parse (Path.slashed bs) = .ok g) :
    g.isMatch true (Path.slashed ns) = true ↔ ns = bs := by
  obtain ⟨-, hspells⟩ := parse_eq_ok_iff.1 hg
  rw [← List.append_nil (Path.slashed bs).toList, spells_literals_iff (isLiteral_slashed hplain)]
    at hspells
  obtain ⟨ts, htokens, hnil⟩ := hspells
  rw [isMatch_eq, htokens, spells_nil_iff.1 hnil, matchFrom_literals_iff]
  constructor
  · rintro ⟨rest, htext, hrest⟩
    rw [List.isEmpty_iff.1 hrest, List.append_nil, String.toList_inj] at htext
    exact Path.slashed_inj hn hb htext
  · rintro rfl
    exact ⟨[], (List.append_nil _).symm, rfl⟩

/-- Names and a slash in front make no difference to what can be read as a pattern. -/
theorem spells_behind_names (hplain : ∀ n ∈ bs, ∀ c ∈ n.toList, IsLiteral c) :
    Spells true (Path.slashed bs ++ "/" ++ pattern).toList us ↔
      ∃ ts, us = ((Path.slashed bs).toList ++ ['/']).map .literal ++ ts ∧
        Spells true pattern.toList ts := by
  have hliteral : ∀ c ∈ (Path.slashed bs).toList ++ ['/'], IsLiteral c := by
    intro c hc
    rcases List.mem_append.1 hc with hc | hc
    · exact isLiteral_slashed hplain c hc
    · rw [List.mem_singleton.1 hc]
      decide
  have htext : (Path.slashed bs ++ "/" ++ pattern).toList
      = (Path.slashed bs).toList ++ ['/'] ++ pattern.toList := by simp
  rw [htext, spells_literals_iff hliteral, startsBehind_slash]

theorem exists_parse_behind_names_iff (hplain : ∀ n ∈ bs, ∀ c ∈ n.toList, IsLiteral c) :
    (∃ g, parse (Path.slashed bs ++ "/" ++ pattern) = .ok g) ↔ ∃ g, parse pattern = .ok g := by
  simp only [exists_parse_iff, IsText, spells_behind_names hplain]
  constructor
  · rintro ⟨_, ts, _, hts⟩
    exact ⟨ts, hts⟩
  · rintro ⟨ts, hts⟩
    exact ⟨_, ts, rfl, hts⟩

/-- Behind names, a pattern matches what it matches below these names, the empty path apart. -/
theorem isMatch_behind_names (hne : bs ≠ []) (hb : ∀ n ∈ bs, IsName n)
    (hplain : ∀ n ∈ bs, ∀ c ∈ n.toList, IsLiteral c) (hn : ∀ n ∈ ns, IsName n)
    (hg : parse pattern = .ok g) (hh : parse (Path.slashed bs ++ "/" ++ pattern) = .ok h) :
    h.isMatch true (Path.slashed ns) = true ↔
      ∃ rest, rest ≠ [] ∧ ns = bs ++ rest ∧ g.isMatch true (Path.slashed rest) = true := by
  obtain ⟨-, hspells⟩ := parse_eq_ok_iff.1 hg
  obtain ⟨ts, htokens, hts⟩ := (spells_behind_names hplain).1 (parse_eq_ok_iff.1 hh).2
  rw [isMatch_eq, htokens, hts.unique hspells, matchFrom_literals_iff, startsBehind_slash]
  simp only [List.append_assoc, List.singleton_append,
    Path.slashed_eq_append_slash_iff hne hb hn, isMatch_eq]
  constructor
  · rintro ⟨_, ⟨rest, hrest, hns, rfl⟩, hmatch⟩
    exact ⟨rest, hrest, hns, hmatch⟩
  · rintro ⟨rest, hrest, hns, hmatch⟩
    exact ⟨_, ⟨rest, hrest, hns, rfl⟩, hmatch⟩

/-- The normalized pattern behind names, against the one by itself. -/
theorem isMatch_normalized_behind (hne : bs ≠ []) (hb : ∀ n ∈ bs, IsName n)
    (hplain : ∀ n ∈ bs, ∀ c ∈ n.toList, IsLiteral c) (hfront : pattern.toList.head? ≠ some '/')
    (hn : ∀ n ∈ ns, IsName n) (hg : parse (normalizeSource pattern) = .ok g)
    (hh : parse (normalizeSource (Path.slashed bs ++ "/" ++ pattern)) = .ok h) :
    h.isMatch true (Path.slashed ns) = true ↔
      ∃ rest, ns = bs ++ rest ∧ (rest ≠ [] ∨ normalizeSource pattern = "") ∧
        g.isMatch true (Path.slashed rest) = true := by
  rw [normalizeSource_behind hne hb hfront] at hh
  split at hh
  · rename_i hempty
    rw [hempty, show "" = Path.slashed [] from rfl] at hg
    have hrest {rest : List String} (hns : ns = bs ++ rest) :
        g.isMatch true (Path.slashed rest) = true ↔ rest = [] :=
      isMatch_names (List.forall_mem_nil _) (List.forall_mem_nil _)
        (fun n h => hn n (hns ▸ List.mem_append_right _ h)) hg
    rw [isMatch_names hb hplain hn hh]
    constructor
    · rintro rfl
      exact ⟨[], (List.append_nil _).symm, .inr hempty, (hrest (List.append_nil _).symm).2 rfl⟩
    · rintro ⟨rest, hns, -, hmatch⟩
      rw [hns, (hrest hns).1 hmatch, List.append_nil]
  · rename_i hsome
    rw [isMatch_behind_names hne hb hplain hn hg hh]
    simp only [hsome, or_false]
    exact ⟨fun ⟨rest, hrest, hns, hm⟩ => ⟨rest, hns, hrest, hm⟩,
      fun ⟨rest, hns, hrest, hm⟩ => ⟨rest, hrest, hns, hm⟩⟩

end Glob

namespace Discoverer

open BulkSuppress.Path (IsName)

variable {bs ns : List String} {pattern : String} {root : Path} {ignore : List String}
variable {s : Discoverer}

/-! ## The two discoverers -/

theorem resolveBase_slashed (hb : ∀ n ∈ bs, IsName n) (root : Path) :
    resolveBase root ⟨Path.slashed bs⟩ = root.below bs := by
  have hkept : (bs.map Component.name).filter (· ≠ .current) = bs.map .name :=
    List.filter_eq_self.2 fun c hc => by
      obtain ⟨n, -, rfl⟩ := List.mem_map.1 hc
      simp
  rw [resolveBase, Path.components_slashed hb, hkept, List.foldl_map]
  rfl

theorem resolveBase_current (root : Path) : resolveBase root ⟨"."⟩ = root := by
  have hcurrent : Path.components ⟨"."⟩ = [.current] := by decide
  rw [resolveBase, hcurrent]
  rfl

/-- What is below a base in the project is judged by its names from the project root. -/
theorem judgedNames_in_project (hbase : s.base = s.projectRoot.below bs)
    (hb : ∀ n ∈ bs, IsName n) (hn : ∀ n ∈ ns, IsName n) :
    s.judgedNames (s.base.below ns) = bs ++ ns := by
  have hall : ∀ n ∈ bs ++ ns, IsName n := fun n h => (List.mem_append.1 h).elim (hb n) (hn n)
  obtain ⟨q, hq, hnil⟩ := Path.exists_stripPrefix?_self s.projectRoot
  obtain ⟨r, hr, hnames⟩ := Path.exists_stripPrefix?_below hall hq
  rw [judgedNames_below hn, hbase, ← Path.below_append, hr, Option.map_some, Option.getD_some,
    hnames, hnil, List.nil_append]

/-- What is selected in the project lies below the base. -/
theorem selects_in_project_iff (hbase : s.base = s.projectRoot.below bs)
    (hb : ∀ n ∈ bs, IsName n) (hn : ∀ n ∈ ns, IsName n) :
    s.selects (s.projectRoot.below ns) = true ↔
      (∃ rest, ns = bs ++ rest ∧ s.selection.isMatch true (Path.slashed rest) = true) ∧
        s.filter.excludesNames ns = false := by
  have hbelow {rest : List String} (hns : ns = bs ++ rest) :
      s.selects (s.projectRoot.below ns)
        = (s.selection.isMatch true (Path.slashed rest) && !s.filter.excludesNames ns) := by
    have hrest : ∀ n ∈ rest, IsName n := fun n h => hn n (hns ▸ List.mem_append_right _ h)
    rw [hns, Path.below_append, ← hbase, selects_below hrest, judgedNames_in_project hbase hb hrest]
  constructor
  · intro hsel
    have hsome : ((s.projectRoot.below ns).stripPrefix? s.base).isSome = true := by
      unfold selects at hsel
      cases hp : (s.projectRoot.below ns).stripPrefix? s.base with
      | none => simp [hp] at hsel
      | some q => rfl
    rw [Path.isSome_stripPrefix?, List.isPrefixOf_iff_prefix, hbase, Path.components_below hb,
      Path.components_below hn, List.prefix_append_right_inj, map_name_prefix_iff] at hsome
    obtain ⟨rest, rfl⟩ := hsome
    rw [hbelow rfl, Bool.and_eq_true, Bool.not_eq_true'] at hsel
    exact ⟨⟨rest, rfl, hsel.1⟩, hsel.2⟩
  · rintro ⟨⟨rest, hns, hmatch⟩, hkept⟩
    rw [hbelow hns, hmatch, hkept]
    rfl

theorem exists_value_of_make {base : Path} {made : Logged Discoverer}
    (h : make base pattern root ignore = .ok made) :
    ∃ g, Glob.parse (Glob.normalizeSource pattern) = .ok g ∧
      made.value = ⟨resolveBase root base, root, g,
        (Exclusion.Filter.default.addValid ignore).value⟩ := by
  obtain ⟨g, hg⟩ := (Glob.exists_parse_normalizeSource_iff pattern).2 (exists_make_iff.1 ⟨_, h⟩)
  exact ⟨g, hg, value_of_make hg h⟩

/--
A directory of the project that is named without wildcards can be the base, or stand in front of
the pattern. Either there is a discoverer both ways or neither, and the two select the same paths
of the project, but for the directory itself. There they agree if normalization leaves nothing of
the pattern; otherwise the pattern behind the directory does not match it, while from the base it
is the empty path.
-/
theorem selects_split (hne : bs ≠ []) (hb : ∀ n ∈ bs, IsName n)
    (hplain : ∀ n ∈ bs, ∀ c ∈ n.toList, Glob.IsLiteral c)
    (hfront : pattern.toList.head? ≠ some '/') (root : Path) (ignore : List String) :
    ((∃ s, make ⟨Path.slashed bs⟩ pattern root ignore = .ok s) ↔
      ∃ t, make ⟨"."⟩ (Path.slashed bs ++ "/" ++ pattern) root ignore = .ok t) ∧
    ∀ s t, make ⟨Path.slashed bs⟩ pattern root ignore = .ok s →
      make ⟨"."⟩ (Path.slashed bs ++ "/" ++ pattern) root ignore = .ok t →
        (∀ ns, (∀ n ∈ ns, IsName n) → ns ≠ bs ∨ Glob.normalizeSource pattern = "" →
          s.value.selects (root.below ns) = t.value.selects (root.below ns)) ∧
        (Glob.normalizeSource pattern ≠ "" →
          t.value.selects (root.below bs) = false ∧
          s.value.selects (root.below bs)
            = (s.value.selection.isMatch true "" && !s.value.filter.excludesNames bs)) := by
  refine ⟨by rw [exists_make_iff, exists_make_iff, Glob.exists_parse_behind_names_iff hplain],
    fun s t hs ht => ?_⟩
  obtain ⟨g, hg, hsval⟩ := exists_value_of_make hs
  obtain ⟨h, hh, htval⟩ := exists_value_of_make ht
  rw [resolveBase_slashed hb] at hsval
  rw [resolveBase_current] at htval
  have hsel {ns : List String} (hn : ∀ n ∈ ns, IsName n) :
      s.value.selects (root.below ns) = true ↔
        (∃ rest, ns = bs ++ rest ∧ g.isMatch true (Path.slashed rest) = true) ∧
          s.value.filter.excludesNames ns = false := by
    have hiff := selects_in_project_iff (s := s.value) (by rw [hsval]) hb hn
    rwa [hsval] at hiff ⊢
  have hsel' {ns : List String} (hn : ∀ n ∈ ns, IsName n) :
      t.value.selects (root.below ns) = true ↔
        (∃ rest, ns = bs ++ rest ∧ (rest ≠ [] ∨ Glob.normalizeSource pattern = "") ∧
          g.isMatch true (Path.slashed rest) = true) ∧
          s.value.filter.excludesNames ns = false := by
    have hiff := selects_in_project_iff (s := t.value) (by rw [htval]; rfl)
      (List.forall_mem_nil _) hn
    rw [htval] at hiff
    rw [htval, hsval, hiff, ← Glob.isMatch_normalized_behind hne hb hplain hfront hn hg hh]
    simp
  refine ⟨fun ns hn hother => ?_, fun hsome => ⟨?_, ?_⟩⟩
  · rw [Bool.eq_iff_iff, hsel hn, hsel' hn]
    refine and_congr_left fun _ => exists_congr fun rest => and_congr_right fun hns => ?_
    exact (and_iff_right (hother.imp_left fun h e => h (by rw [hns, e, List.append_nil]))).symm
  · rw [← Bool.not_eq_true, hsel' hb]
    rintro ⟨⟨rest, hns, hrest, -⟩, -⟩
    exact hrest.elim (· (List.self_eq_append_right.1 hns)) hsome
  · have hself : (∃ rest, bs = bs ++ rest ∧ g.isMatch true (Path.slashed rest) = true) ↔
        s.value.selection.isMatch true "" = true := by
      rw [hsval]
      constructor
      · rintro ⟨rest, hns, hmatch⟩
        rwa [List.self_eq_append_right.1 hns] at hmatch
      · exact fun hmatch => ⟨[], (List.append_nil _).symm, hmatch⟩
    rw [Bool.eq_iff_iff, hsel hb, hself, Bool.and_eq_true, Bool.not_eq_true']

/-- The scripts of a directory, minified ones apart, whichever way the directory is named. -/
theorem selects_split_scripts :
    (["src", "lib"] ≠ [] ∧ (∀ n ∈ ["src", "lib"], IsName n) ∧
      (∀ n ∈ ["src", "lib"], ∀ c ∈ n.toList, Glob.IsLiteral c) ∧
      "./**//*.js".toList.head? ≠ some '/') ∧
    ∃ s t, make ⟨"src/lib"⟩ "./**//*.js" ⟨"/work"⟩ ["lib/", "!src/**"] = .ok s ∧
      make ⟨"."⟩ "src/lib/./**//*.js" ⟨"/work"⟩ ["lib/", "!src/**"] = .ok t ∧
      t.value.selects ⟨"/work/src/lib/a/b.js"⟩ = true ∧
      t.value.selects ⟨"/work/src/lib/a/.b.js"⟩ = false ∧
      t.value.selects ⟨"/work/src/lib"⟩ = false := by
  have hb : ∀ n ∈ ["src", "lib"], IsName n := by decide
  have hplain : ∀ n ∈ ["src", "lib"], ∀ c ∈ n.toList, Glob.IsLiteral c := by
    have hall : ["src", "lib"].all (·.toList.all (decide <| Glob.IsLiteral ·)) = true := by
      decide
    simpa only [List.all_eq_true, decide_eq_true_eq] using hall
  have hfront : "./**//*.js".toList.head? ≠ some '/' := by decide
  have hsource : Glob.normalizeSource "./**//*.js" = Glob.normalizeSource "**/*.js" := by decide
  have hglob := parse_scripts
  rw [← hsource] at hglob
  obtain ⟨hvalid, hsame⟩ := selects_split (by decide : ["src", "lib"] ≠ []) hb hplain hfront
    ⟨"/work"⟩ ["lib/", "!src/**"]
  obtain ⟨s, hs⟩ : ∃ s, make ⟨"src/lib"⟩ "./**//*.js" ⟨"/work"⟩ ["lib/", "!src/**"] = .ok s :=
    ⟨_, by simp only [make, hglob]; rfl⟩
  obtain ⟨t, ht⟩ := hvalid.1 ⟨s, hs⟩
  have hsval := value_of_make hglob hs
  obtain ⟨hothers, hbase⟩ := hsame s t hs ht
  refine ⟨⟨by decide, hb, hplain, hfront⟩, s, t, hs, ht, ?_, ?_, ?_⟩
  · refine (hothers ["src", "lib", "a", "b.js"] (by decide) (.inl (by decide))).symm.trans ?_
    rw [hsval]
    decide +kernel
  · refine (hothers ["src", "lib", "a", ".b.js"] (by decide) (.inl (by decide))).symm.trans ?_
    rw [hsval]
    decide
  · exact (hbase (by decide)).1

/-- From the base, everything includes the base; behind its name, everything does not. -/
theorem selects_base :
    ∃ s t, make ⟨"src"⟩ "**" ⟨"/work"⟩ [] = .ok s ∧ make ⟨"."⟩ "src/**" ⟨"/work"⟩ [] = .ok t ∧
      s.value.selects (Path.below ⟨"/work"⟩ ["src"]) = true ∧
      t.value.selects (Path.below ⟨"/work"⟩ ["src"]) = false := by
  have hbase : Glob.parse (Glob.normalizeSource "**") = .ok ⟨"**", [.anyPath]⟩ := by
    decide +kernel
  have hroot : Glob.parse (Glob.normalizeSource "src/**") =
      .ok ⟨"src/**", [.literal 's', .literal 'r', .literal 'c', .literal '/', .anyPath]⟩ := by
    decide +kernel
  obtain ⟨s, hs⟩ : ∃ s, make ⟨"src"⟩ "**" ⟨"/work"⟩ [] = .ok s :=
    ⟨_, by simp only [make, hbase]; rfl⟩
  obtain ⟨t, ht⟩ : ∃ t, make ⟨"."⟩ "src/**" ⟨"/work"⟩ [] = .ok t :=
    ⟨_, by simp only [make, hroot]; rfl⟩
  refine ⟨s, t, hs, ht, ?_, ?_⟩
  · rw [value_of_make hbase hs]
    decide +kernel
  · rw [value_of_make hroot ht]
    decide

end Discoverer
end BulkSuppress
