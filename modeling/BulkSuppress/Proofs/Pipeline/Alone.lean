import BulkSuppress.Pipeline
import BulkSuppress.Proofs.Disk.Shape

/-
  What the pipeline of one file comes to, told from the verdict on the file and its bytes alone:
  how it ends (`ending`) and the bytes it leaves (`bytesAfter`). `OnTrack` ties each stage of a
  running pipeline to these two, and `onTrack_step` says that a step keeps it on track and
  changes the content of its own file at most, whatever happened to other files in between.

  `steps_eq_process` ties the steps to the pipeline that runs through at one go.

  The engine has to be local: its verdict depends on the path and the bytes of the file, and it
  leaves the disk as it is. An engine that writes files itself is not covered.
-/

namespace BulkSuppress

/-- The engine changes nothing, and its verdict depends on the path and the file's bytes. -/
structure Engine.IsLocal (e : Engine) : Prop where
  keeps_disk : ∀ d p, (e.lint d p).value.1 = d
  verdict_congr : ∀ d d' p, d.readBytes p = d'.readBytes p →
    (e.lint d p).value.2 = (e.lint d' p).value.2

/-- What the engine makes of the file. -/
def Engine.verdict (e : Engine) (d : Disk) (p : Path) : Verdict := (e.lint d p).value.2

namespace Pipeline

/-- How the pipeline of a file ends, by what reading the file gives and the verdict on it. -/
def ending (a : Annotator) (p : Path) (content : Except SystemError ByteArray) :
    Verdict → Ending
  | .failed why => .failed why
  | .panicked text => .panicked text
  | .rules rules =>
    if rules.isEmpty then .finished .clean
    else if a.dryRun then .finished (.wouldAnnotate rules.size)
    else match content with
      | .error e => .failed (.fileAccess .read p e)
      | .ok bytes =>
        if (Utf8.decode? bytes).isSome then .finished (.annotated rules.size)
        else .failed (.fileAccess .read p .notText)

/-- The bytes of a file after its pipeline, by those before it and the verdict on the file. -/
def bytesAfter (a : Annotator) (bytes : ByteArray) : Verdict → ByteArray
  | .failed _ | .panicked _ => bytes
  | .rules rules =>
    if rules.isEmpty || a.dryRun || (Utf8.decode? bytes).isNone then bytes
    else Utf8.encode (Header.build a.remark rules) ++ bytes

/-- The entry of a file after its pipeline; what is no file stays as it is. -/
def entryAfter (a : Annotator) (v : Verdict) : Entry → Entry
  | .file bytes executable => .file (bytesAfter a bytes v) executable
  | e => e

/-- The stage belongs to the pipeline of `p` on the disk `d`, of which `d'` is the present state. -/
def OnTrack (e : Engine) (a : Annotator) (d : Disk) (p : Path) (d' : Disk) : Stage → Prop
  | .linting => d.Agree d' p
  | .reading rules =>
    d.Agree d' p ∧ e.verdict d p = .rules rules ∧ rules.isEmpty = false ∧ a.dryRun = false
  | .writing rules content =>
    d.Agree d' p ∧ e.verdict d p = .rules rules ∧ rules.isEmpty = false ∧ a.dryRun = false ∧
      d.readText p = .ok content
  | .ended how =>
    d.SameShape d' ∧ how = ending a p (d.readBytes p) (e.verdict d p) ∧
      ∀ loc, d.resolve p = .ok loc →
        d'.entryAt? loc = (d.entryAt? loc).map (entryAfter a (e.verdict d p))

variable {e : Engine} {a : Annotator} {d d' : Disk} {p : Path}

/-! ## Text and bytes -/

theorem encode_of_decode? {bytes : ByteArray} {text : String} (h : Utf8.decode? bytes = some text) :
    Utf8.encode text = bytes := by
  unfold Utf8.decode? String.fromUTF8? at h
  split at h
  · cases h; rfl
  · cases h

theorem readText_eq_ok {content : String} (h : d.readText p = .ok content) :
    ∃ loc bytes, d.readFile p = .ok (loc, bytes) ∧ d.readBytes p = .ok bytes ∧
      Utf8.decode? bytes = some content := by
  unfold Disk.readText at h
  cases hb : d.readBytes p with
  | error why => simp [hb] at h
  | ok bytes =>
    simp only [hb] at h
    cases ht : Utf8.decode? bytes with
    | none => simp [ht] at h
    | some text =>
      simp only [ht, Except.ok.injEq] at h
      cases hr : d.readFile p with
      | error why => simp [Disk.readBytes, hr, Except.map] at hb
      | ok r =>
        rw [Disk.readBytes, hr] at hb
        cases hb
        exact ⟨r.1, r.2, rfl, rfl, h ▸ ht⟩

/-- A file that cannot be read as text makes its pipeline fail, when a header is due. -/
theorem ending_of_readText_error {rules : RuleSet} {why : SystemError}
    (hr : rules.isEmpty = false) (hd : a.dryRun = false) (h : d.readText p = .error why) :
    ending a p (d.readBytes p) (.rules rules) = .failed (.fileAccess .read p why) := by
  unfold Disk.readText at h
  simp only [ending, hr, hd, Bool.false_eq_true, if_false]
  cases hb : d.readBytes p with
  | error e => simp only [hb, Except.error.injEq] at h; rw [h]
  | ok bytes =>
    simp only [hb] at h
    cases ht : Utf8.decode? bytes with
    | none => simp only [ht, Except.error.injEq] at h; simp [h, ht]
    | some text => simp [ht] at h

/-! ## Ends of a pipeline -/

/-- A pipeline that leaves its file alone is on track, if the file's bytes are to stay. -/
theorem onTrack_ended (h : d.Agree d' p)
    (hb : ∀ loc bytes x, d.resolve p = .ok loc → d.entryAt? loc = some (.file bytes x) →
      bytesAfter a bytes (e.verdict d p) = bytes) :
    OnTrack e a d p d' (.ended (ending a p (d.readBytes p) (e.verdict d p))) := by
  refine ⟨h.toSameShape, rfl, fun loc hloc => ?_⟩
  rw [h.entry loc hloc]
  cases he : d.entryAt? loc with
  | none => rfl
  | some entry =>
    cases entry with
    | file bytes x => simp [entryAfter, hb loc bytes x hloc he]
    | _ => rfl

/-- What is written over a text is the header followed by the bytes of the text. -/
theorem withContent_eq_entryAfter {rules : RuleSet} {content : String} {loc : Location}
    {bytes : ByteArray} (hr : rules.isEmpty = false) (hd : a.dryRun = false)
    (hf : d.readFile p = .ok (loc, bytes)) (ht : Utf8.decode? bytes = some content) :
    (d.entryAt? loc).map
        (Entry.withContent (Utf8.encode (Header.build a.remark rules ++ content))) =
      (d.entryAt? loc).map (entryAfter a (.rules rules)) := by
  obtain ⟨-, ⟨x, he⟩ | ⟨he, -⟩⟩ := Disk.readFile_eq_ok hf
  · have hc : Utf8.encode (Header.build a.remark rules ++ content) =
        Utf8.encode (Header.build a.remark rules) ++ bytes := by
      rw [← encode_of_decode? ht]
      exact String.toByteArray_append
    rw [he, hc]
    simp [entryAfter, bytesAfter, Entry.withContent, hr, hd, ht]
  · rw [he]
    rfl

theorem value_write {loc : Location} {bytes : ByteArray}
    (hf : d.readFile p = .ok (loc, bytes)) (rules : RuleSet) (content : String) :
    (write a d p rules content).value
      = (d.setContent loc (Utf8.encode (Header.build a.remark rules ++ content)),
          .finished (.annotated rules.size)) := by
  simp [write, Disk.writeBytes, hf, Except.map]

/-! ## Steps -/

/-- The second disk is the first with other content at most in what `p` leads to. -/
def Touches (d : Disk) (p : Path) (before after : Disk) : Prop :=
  after = before ∨ ∃ loc content, d.resolve p = .ok loc ∧ after = before.setContent loc content

theorem onTrack_verdictStep (h : d.Agree d' p) :
    OnTrack e a d p d' (verdictStep a p (e.verdict d p)).value := by
  cases hv : e.verdict d p with
  | failed why =>
    have := onTrack_ended (e := e) (a := a) h fun loc bytes x _ _ => by rw [hv]; rfl
    rwa [hv] at this
  | panicked text =>
    have := onTrack_ended (e := e) (a := a) h fun loc bytes x _ _ => by rw [hv]; rfl
    rwa [hv] at this
  | rules rules =>
    simp only [verdictStep, takeRules, Logged.value_bind]
    cases hr : rules.isEmpty with
    | true =>
      have := onTrack_ended (e := e) (a := a) h fun loc bytes x _ _ => by
        rw [hv]; simp [bytesAfter, hr]
      simpa [hv, ending, hr] using this
    | false =>
      cases hd : a.dryRun with
      | true =>
        have := onTrack_ended (e := e) (a := a) h fun loc bytes x _ _ => by
          rw [hv]; simp [bytesAfter, hd]
        simpa [hv, ending, hr, hd] using this
      | false => exact ⟨h, hv, hr, hd⟩

theorem onTrack_readStep {rules : RuleSet} (h : OnTrack e a d p d' (.reading rules)) :
    OnTrack e a d p d' (readStep d' p rules).value := by
  obtain ⟨hg, hv, hr, hd⟩ := h
  simp only [readStep, read, Logged.value_bind, hg.readText_eq]
  cases ht : d.readText p with
  | ok content => exact ⟨hg, hv, hr, hd, ht⟩
  | error why =>
    have := onTrack_ended (e := e) (a := a) hg fun loc bytes x hloc he => by
      have hn : Utf8.decode? bytes = none := by
        rw [Disk.readText_of_file hloc he] at ht
        cases hb : Utf8.decode? bytes with
        | none => rfl
        | some text => simp [hb] at ht
      rw [hv]
      simp [bytesAfter, hn]
    rw [hv, ending_of_readText_error hr hd ht] at this
    exact this

theorem onTrack_writeStep {rules : RuleSet} {content : String}
    (h : OnTrack e a d p d' (.writing rules content)) :
    OnTrack e a d p (write a d' p rules content).value.1
        (.ended (write a d' p rules content).value.2) ∧
      Touches d p d' (write a d' p rules content).value.1 := by
  obtain ⟨hg, hv, hr, hd, ht⟩ := h
  obtain ⟨loc, bytes, hf, hb, htext⟩ := readText_eq_ok ht
  have hloc := (Disk.readFile_eq_ok hf).1
  rw [value_write (hg.readFile_eq.trans hf)]
  refine ⟨⟨hg.toSameShape.setContent _ _, ?_, fun loc' hloc' => ?_⟩, .inr ⟨loc, _, hloc, rfl⟩⟩
  · simp [ending, hv, hr, hd, hb, htext]
  · cases hloc.symm.trans hloc'
    rw [Disk.entryAt?_setContent, if_pos rfl, hg.entry loc hloc, hv,
      withContent_eq_entryAfter hr hd hf htext]

/-- A step keeps a pipeline on track, and changes its own file at most. -/
theorem onTrack_step (hl : e.IsLocal) {stage : Stage} (h : OnTrack e a d p d' stage) :
    OnTrack e a d p (step e a p d' stage).value.1 (step e a p d' stage).value.2 ∧
      Touches d p d' (step e a p d' stage).value.1 := by
  cases stage with
  | linting =>
    have hg : d.Agree d' p := h
    have hv : (e.lint d' p).value.2 = e.verdict d p :=
      hl.verdict_congr d' d p hg.readBytes_eq
    simp only [step, Logged.value_bind, Logged.value_pure, hl.keeps_disk, hv]
    exact ⟨onTrack_verdictStep hg, .inl rfl⟩
  | reading rules => exact ⟨onTrack_readStep h, .inl rfl⟩
  | writing rules content => exact onTrack_writeStep h
  | ended how => exact ⟨h, .inl rfl⟩

/-- What happens to another file takes no pipeline off its track. -/
theorem OnTrack.setContent {stage : Stage} (h : OnTrack e a d p d' stage) {loc : Location}
    (content : ByteArray) (hne : d.resolve p ≠ .ok loc) :
    OnTrack e a d p (d'.setContent loc content) stage := by
  cases stage with
  | linting => exact Disk.Agree.setContent h content hne
  | reading rules => exact ⟨h.1.setContent content hne, h.2⟩
  | writing rules text => exact ⟨h.1.setContent content hne, h.2⟩
  | ended how =>
    obtain ⟨hs, hhow, he⟩ := h
    refine ⟨hs.setContent loc content, hhow, fun loc' hloc' => ?_⟩
    have : loc' ≠ loc := fun heq => hne (heq ▸ hloc')
    rw [Disk.entryAt?_setContent, if_neg this, he loc' hloc']

theorem OnTrack.of_touches {stage : Stage} {q : Path} {d'' : Disk}
    (h : OnTrack e a d p d' stage) (ht : Touches d q d' d'')
    (hne : ∀ loc, d.resolve q = .ok loc → d.resolve p ≠ .ok loc) :
    OnTrack e a d p d'' stage := by
  rcases ht with rfl | ⟨loc, content, hloc, rfl⟩
  · exact h
  · exact h.setContent content (hne loc hloc)

/-! ## At one go -/

/-- The steps of a pipeline come to the whole of it, when nothing happens in between. -/
theorem steps_eq_process (e : Engine) (a : Annotator) (d : Disk) (p : Path) :
    (do
      let r ← step e a p d .linting
      let r ← step e a p r.1 r.2
      step e a p r.1 r.2)
    = (do
      let r ← process e a d p
      return (r.1, .ended r.2)) := by
  cases hv : (e.lint d p).value with
  | mk d' v =>
    cases v with
    | failed why => apply Logged.ext <;> simp [step, process, hv, verdictStep]
    | panicked text => apply Logged.ext <;> simp [step, process, hv, verdictStep]
    | rules rules =>
      cases hr : (takeRules a p rules).value with
      | some how => apply Logged.ext <;> simp [step, process, annotate, hv, verdictStep, hr]
      | none =>
        cases hc : (read d' p).value with
        | error why =>
          apply Logged.ext <;> simp [step, process, annotate, hv, verdictStep, hr, readStep, hc]
        | ok content =>
          apply Logged.ext <;> simp [step, process, annotate, hv, verdictStep, hr, readStep, hc]

/--
What becomes of a file that gets a header of the rules, if it can: the pipeline ends as `ending`
says, the file has the bytes that `bytesAfter` gives, and nothing else is touched.
-/
theorem annotate_of_file (rules : RuleSet) {loc : Location} {bytes : ByteArray} {x : Bool}
    (hloc : d.resolve p = .ok loc) (he : d.entryAt? loc = some (.file bytes x)) :
    ∃ d', (annotate a d p rules).value = (d', ending a p (.ok bytes) (.rules rules)) ∧
      d'.entryAt? loc = some (.file (bytesAfter a bytes (.rules rules)) x) ∧ Touches d p d d' := by
  have hread := Disk.readText_of_file hloc he
  cases hr : rules.isEmpty with
  | true =>
    refine ⟨d, by simp [annotate, takeRules, ending, hr], ?_, .inl rfl⟩
    rw [he]
    simp [bytesAfter, hr]
  | false =>
    cases hd : a.dryRun with
    | true =>
      refine ⟨d, by simp [annotate, takeRules, ending, hr, hd], ?_, .inl rfl⟩
      rw [he]
      simp [bytesAfter, hd]
    | false =>
      cases ht : Utf8.decode? bytes with
      | none =>
        refine ⟨d, by simp [annotate, takeRules, read, ending, hr, hd, hread, ht], ?_, .inl rfl⟩
        rw [he]
        simp [bytesAfter, ht]
      | some text =>
        have hf := Disk.readFile_of_file hloc he
        refine ⟨d.setContent loc (Utf8.encode (Header.build a.remark rules ++ text)), ?_, ?_,
          .inr ⟨loc, _, hloc, rfl⟩⟩
        · simp [annotate, takeRules, read, ending, hr, hd, hread, ht, value_write hf]
        · rw [Disk.entryAt?_setContent, if_pos rfl, withContent_eq_entryAfter hr hd hf ht, he]
          rfl

end Pipeline

namespace Disk

variable {d before after : Disk} {p : Path} {loc : Location}

theorem SameShape.of_touches (h : d.SameShape before) (ht : Pipeline.Touches d p before after) :
    d.SameShape after := by
  rcases ht with rfl | ⟨loc, content, -, rfl⟩
  · exact h
  · exact h.setContent loc content

theorem entryAt?_of_touches (ht : Pipeline.Touches d p before after)
    (hne : d.resolve p ≠ .ok loc) : after.entryAt? loc = before.entryAt? loc := by
  rcases ht with rfl | ⟨loc', content, hloc', rfl⟩
  · rfl
  · have : loc ≠ loc' := fun e => hne (e ▸ hloc')
    rw [entryAt?_setContent, if_neg this]

end Disk

end BulkSuppress
