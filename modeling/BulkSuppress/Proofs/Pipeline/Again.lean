import BulkSuppress.Proofs.Pipeline.Alone

/-
  A file that comes up again, after a pipeline has been through with it. The engine has to be local
  and to honour suppressions: it has nothing to say about a text once the rules that it found there
  are disabled in a header. Then a file that got its header is clean (`verdict_of_isDue`), one that
  got none is as it was (`Left.agree`), and so no file is due a header any more (`not_isDue_of_left`).
  The second pipeline ends as the first, with `clean` for what the first has carried out
  (`ending_again`).

  The null device is left out. What is written to it is lost, so that a header does not stay there.
-/

namespace BulkSuppress

/-- The engine has nothing to say about a text below a header of the rules it found in the text. -/
def Engine.Honours (e : Engine) (remark : String) : Prop :=
  ∀ (d d' : Disk) (p : Path) (rules : RuleSet) (content : String),
    e.verdict d p = .rules rules → rules.isEmpty = false →
    d.readBytes p = .ok (Utf8.encode content) →
    d'.readBytes p = .ok (Utf8.encode (Header.build remark rules ++ content)) →
    e.verdict d' p = .rules .empty

/-- The file violates rules, and can be read for a header of them. -/
def Engine.IsDue (e : Engine) (d : Disk) (p : Path) : Prop :=
  ∃ rules content, e.verdict d p = .rules rules ∧ rules.isEmpty = false ∧
    d.readText p = .ok content

/-- The path does not lead to the null device. -/
def Disk.Retains (d : Disk) (p : Path) : Prop :=
  ∀ loc, d.resolve p = .ok loc → d.entryAt? loc ≠ some .nullDevice

namespace Pipeline

/-- How a pipeline ends that comes after one with the given ending. -/
def Ending.again : Ending → Ending
  | .finished _ => .finished .clean
  | .failed why => .failed why
  | .panicked text => .panicked text

/-- As far as the path is concerned, the second disk is what its pipeline leaves of the first. -/
structure Left (e : Engine) (a : Annotator) (d : Disk) (p : Path) (d' : Disk) : Prop
    extends d.SameShape d' where
  entry : ∀ loc, d.resolve p = .ok loc →
    d'.entryAt? loc = (d.entryAt? loc).map (entryAfter a (e.verdict d p))

variable {e : Engine} {remark : String} {d d' : Disk} {p : Path}

/-! ## With a header -/

/-- A file that was due a header is clean under it. -/
theorem verdict_of_isDue (he : e.Honours remark) (hr : d.Retains p)
    (h : Left e ⟨remark, false⟩ d p d') (hdue : e.IsDue d p) : e.verdict d' p = .rules .empty := by
  obtain ⟨rules, content, hv, hrules, hread⟩ := hdue
  obtain ⟨loc, bytes, hf, hb, ht⟩ := readText_eq_ok hread
  obtain ⟨hloc, ⟨x, hentry⟩ | ⟨hnull, -⟩⟩ := Disk.readFile_eq_ok hf
  · have hcontent := encode_of_decode? ht
    have hafter : d'.entryAt? loc
        = some (.file (Utf8.encode (Header.build remark rules ++ content)) x) := by
      rw [h.entry loc hloc, hv, ← withContent_eq_entryAfter hrules rfl hf ht, hentry]
      rfl
    refine he d d' p rules content hv hrules (hcontent ▸ hb) ?_
    exact Disk.readBytes_of_file ((h.resolve_eq p).trans hloc) hafter
  · exact absurd hnull (hr loc hloc)

/-! ## Without one -/

/-- What is left of a file that was due no header is the file as it was. -/
theorem Left.agree (h : Left e ⟨remark, false⟩ d p d') (hdue : ¬ e.IsDue d p) : d.Agree d' p := by
  refine ⟨h.toSameShape, fun loc hloc => (h.entry loc hloc).trans ?_⟩
  cases hentry : d.entryAt? loc with
  | none => rfl
  | some entry =>
    cases entry with
    | file bytes x =>
      suffices hbytes : bytesAfter ⟨remark, false⟩ bytes (e.verdict d p) = bytes by
        simp [entryAfter, hbytes]
      cases hv : e.verdict d p with
      | failed why => rfl
      | panicked text => rfl
      | rules rules =>
        cases hr : rules.isEmpty with
        | true => simp [bytesAfter, hr]
        | false =>
          cases ht : Utf8.decode? bytes with
          | none => simp [bytesAfter, ht]
          | some content =>
            refine absurd ⟨rules, content, hv, hr, ?_⟩ hdue
            rw [Disk.readText_of_file hloc hentry, ht]
    | _ => rfl

/-- The pipeline of a file that is due no header finds it clean or comes to nothing. -/
theorem again_ending_of_not_isDue (hdue : ¬ e.IsDue d p) :
    (ending ⟨remark, false⟩ p (d.readBytes p) (e.verdict d p)).again
      = ending ⟨remark, false⟩ p (d.readBytes p) (e.verdict d p) := by
  cases hv : e.verdict d p with
  | failed why => rfl
  | panicked text => rfl
  | rules rules =>
    cases hr : rules.isEmpty with
    | true => simp [ending, hr, Ending.again]
    | false =>
      cases hread : d.readText p with
      | ok content => exact absurd ⟨rules, content, hv, hr, hread⟩ hdue
      | error why => rw [ending_of_readText_error hr rfl hread, Ending.again]

/-! ## The second time -/

/-- Whatever the first pipeline made of the file, it is due no header now. -/
theorem not_isDue_of_left (hl : e.IsLocal) (he : e.Honours remark) (hr : d.Retains p)
    (h : Left e ⟨remark, false⟩ d p d') : ¬ e.IsDue d' p := by
  rintro ⟨rules, content, hv, hrules, hread⟩
  by_cases hdue : e.IsDue d p
  · rw [verdict_of_isDue he hr h hdue] at hv
    cases hv
    cases hrules
  · have hagree := h.agree hdue
    have hsame : e.verdict d' p = e.verdict d p := hl.verdict_congr d' d p hagree.readBytes_eq
    exact hdue ⟨rules, content, hsame ▸ hv, hrules, hagree.readText_eq ▸ hread⟩

/-- A second pipeline ends as the first, and finds clean what the first carried out. -/
theorem ending_again (hl : e.IsLocal) (he : e.Honours remark) (hr : d.Retains p)
    (h : Left e ⟨remark, false⟩ d p d') :
    ending ⟨remark, false⟩ p (d'.readBytes p) (e.verdict d' p)
      = (ending ⟨remark, false⟩ p (d.readBytes p) (e.verdict d p)).again := by
  by_cases hdue : e.IsDue d p
  · have hclean := verdict_of_isDue he hr h hdue
    obtain ⟨rules, content, hv, hrules, hread⟩ := hdue
    obtain ⟨-, bytes, -, hb, ht⟩ := readText_eq_ok hread
    have hempty : RuleSet.empty.isEmpty = true := rfl
    rw [hclean, hv, hb]
    simp [ending, hempty, hrules, ht, Ending.again]
  · have hagree := h.agree hdue
    have hsame : e.verdict d' p = e.verdict d p := hl.verdict_congr d' d p hagree.readBytes_eq
    rw [again_ending_of_not_isDue hdue, hagree.readBytes_eq, hsame]

end Pipeline
end BulkSuppress
