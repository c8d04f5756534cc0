import Mathlib.Data.List.Count
import BulkSuppress.LintReport
import BulkSuppress.Proofs.Json.Reading

/-
  What the linter reports is read from whatever text says it. `IsReport` tells which JSON values
  stand for which results: lists of objects, of which a few members mean something and may be
  missing, and any others mean nothing. A record is filled member by member, so that the order of
  the members makes no difference (`Gathers`, `fills_message`), and members without a meaning are
  skipped with all that they hold (`skipField_of_near`). Every text of such a value is read, and
  the rules come out in the order of their first mention (`reads_report`).

  Nothing is said about texts that spell no report. A record may also be written as a list of its
  fields; such texts are read too, but `IsReport` leaves them out.
-/

namespace BulkSuppress.LintReport

open Json

variable {α σ : Type} {v : Value} {a : α} {c : Cursor} {cs rest : List Char} {name : String}
variable {ms : List (List Nat × Value)}

/-! ## What stands for a report -/

/-- An object whose members have texts for names, with each of the given names once at most. -/
def IsRecord (names : List String) (v : Value) : Prop :=
  ∃ ms, v = .object ms ∧ (∀ m ∈ ms, ∃ key, m.1 = units key) ∧
    ∀ name ∈ names, (ms.map (·.1)).count (units name) ≤ 1

/-- The rule of a message, which may be missing or `null`. -/
inductive IsRule : Option Value → Option String → Prop
  | absent : IsRule none none
  | null : IsRule (some .null) none
  | named (s : String) : IsRule (some (.string (units s))) (some s)

/-- A flag that may be missing, for `false`. -/
inductive IsFlag : Option Value → Bool → Prop
  | absent : IsFlag none false
  | given (b : Bool) : IsFlag (some (.boolean b)) b

/-- A text that may be missing, for the empty one. -/
inductive IsNote : Option Value → String → Prop
  | absent : IsNote none ""
  | given (s : String) : IsNote (some (.string (units s))) s

/-- The value stands for the message. -/
structure IsMessage (v : Value) (m : Message) : Prop where
  record : IsRecord ["ruleId", "fatal", "message"] v
  rule : IsRule (v.member? "ruleId") m.rule
  fatal : IsFlag (v.member? "fatal") m.fatal
  text : IsNote (v.member? "message") m.text

/-- The messages of a result, which may be missing, for none. -/
inductive IsMessages : Option Value → List Message → Prop
  | absent : IsMessages none []
  | given {vs : List Value} {messages : List Message} (h : List.Forall₂ IsMessage vs messages) :
      IsMessages (some (.list vs)) messages

/-- The value stands for a result with the messages. -/
structure IsResult (v : Value) (messages : List Message) : Prop where
  record : IsRecord ["messages"] v
  messages : IsMessages (v.member? "messages") messages

/-- The value stands for a report, a list of results. -/
def IsReport (v : Value) (results : List (List Message)) : Prop :=
  ∃ vs, v = .list vs ∧ List.Forall₂ IsResult vs results

/-! ## Filling records -/

/--
Taking up the members, a field goes from `old` to `new`: it gets the value of its name, which is not
given twice.
-/
def Gathers (R : Value → α → Prop) (name : String) :
    List (List Nat × Value) → Option α → Option α → Prop
  | [], old, new => old = new
  | (k, v) :: ms, old, new =>
    if k = units name then old = none ∧ ∃ a, R v a ∧ Gathers R name ms (some a) new
    else Gathers R name ms old new

variable {R : Value → α → Prop} {old new : Option α} {key : String}

theorem gathers_self (h : Gathers R name ((units name, v) :: ms) old new) :
    old = none ∧ ∃ a, R v a ∧ Gathers R name ms (some a) new := by
  rwa [Gathers, if_pos rfl] at h

theorem gathers_other (hkey : key ≠ name) (h : Gathers R name ((units key, v) :: ms) old new) :
    Gathers R name ms old new := by
  rwa [Gathers, if_neg fun e => hkey (units_inj e)] at h

theorem gathers_of_not_mem (h : units name ∉ ms.map (·.1)) (x : Option α) :
    Gathers R name ms x x := by
  induction ms with
  | nil => rfl
  | cons m ms ih =>
    obtain ⟨k, v⟩ := m
    rw [List.map_cons, List.mem_cons, not_or] at h
    rw [Gathers, if_neg (Ne.symm h.1)]
    exact ih h.2

/-- A name that is given once at most leads to its value. -/
theorem gathers_of_lookup (hcount : (ms.map (·.1)).count (units name) ≤ 1)
    (h : Option.Rel R (ms.lookup (units name)) new) : Gathers R name ms none new := by
  induction ms with
  | nil =>
    cases h
    rfl
  | cons m ms ih =>
    obtain ⟨k, v⟩ := m
    rw [List.map_cons, List.count_cons] at hcount
    by_cases hk : k = units name
    · subst hk
      rw [List.lookup_cons, beq_self_eq_true] at h
      rw [beq_self_eq_true, if_pos rfl] at hcount
      cases h with
      | some hv =>
        rw [Gathers, if_pos rfl]
        exact ⟨rfl, _, hv, gathers_of_not_mem (List.count_eq_zero.1 (by omega)) _⟩
    · rw [List.lookup_cons, beq_eq_false_iff_ne.2 (Ne.symm hk)] at h
      rw [beq_eq_false_iff_ne.2 hk] at hcount
      rw [Gathers, if_neg hk]
      exact ih (by simpa using hcount) h

/-! ## Fields -/

variable {β : Type} {get : Cursor → Except Error (α × Cursor)}

theorem field_of_near (hu : Understands get v a) (set : α → β) (h : Spells (.item v) cs rest)
    (hrest : EndsItem rest) (hc : c.Near (':' :: cs)) :
    ∃ c', field none key c get set = .ok (set a, c') ∧ c'.Near rest := by
  obtain ⟨c₁, hcolon, hc₁⟩ := colon_of_near hc
  cases h with
  | item hfront hv hback =>
    obtain ⟨c', hread, hc'⟩ := hu _ _ _ hv hback hrest c₁ ⟨_, hc₁, hfront⟩
    exact ⟨c', by simp [field, hcolon, hread, bind, Except.bind, pure, Except.pure], hc'⟩

theorem skipField_of_near (x : β) (h : Spells (.item v) cs rest) (hrest : EndsItem rest)
    (hc : c.Near (':' :: cs)) : ∃ c', skipField x c = .ok (x, c') ∧ c'.Near rest := by
  obtain ⟨c₁, hcolon, hc₁⟩ := colon_of_near hc
  obtain ⟨c', hskip, hc'⟩ := skipValue_of_spells h hrest hc₁.near
  exact ⟨c', by simp [skipField, hcolon, hskip, bind, Except.bind, pure, Except.pure], hc'⟩

/-- An object is read as the record that its members fill. -/
theorem understands_record {m : MemberReader σ} {start filled : σ} (hf : Fills m start ms filled)
    (expected : String) (fields : Cursor → Except Error (σ × Cursor)) :
    Understands (record expected m start fields) (.object ms) filled := by
  intro cs back rest h hback _ c hc
  have hplain := h.startsPlain_value
  cases h with
  | object hmembers =>
    have hinside := (hc.at_skipBlanks hplain).advance (by decide)
    obtain ⟨c₁, hread, hc₁⟩ := members_of_spells hf hmembers (.inr rfl) hinside.atNext
    obtain ⟨c', hend, hc'⟩ := endObject_of_near hc₁
    have hne : ascii '\x7b' ≠ ascii '[' := by decide
    refine ⟨c', ?_, back, hc', hback⟩
    simp [record, valueStart_of_near (by decide) hplain hc, bind, Except.bind, hne, hread, hend,
      pure, Except.pure]

/-! ## Messages -/

variable {f g : MessageFields}

theorem fills_message (hkeys : ∀ m ∈ ms, ∃ key, m.1 = units key)
    (hrule : Gathers (Understands optionalText) "ruleId" ms f.rule g.rule)
    (hfatal : Gathers (Understands booleanValue) "fatal" ms f.fatal g.fatal)
    (htext : Gathers (Understands textValue) "message" ms f.text g.text) :
    Fills messageMember f ms g := by
  induction ms generalizing f with
  | nil =>
    obtain ⟨rule, fatal, text⟩ := f
    cases hrule
    cases hfatal
    cases htext
    exact .nil _
  | cons m ms ih =>
    obtain ⟨k, v⟩ := m
    rw [List.forall_mem_cons] at hkeys
    obtain ⟨key, rfl⟩ := hkeys.1
    by_cases hr : key = "ruleId"
    · subst hr
      obtain ⟨hnone, a, ha, hrest⟩ := gathers_self hrule
      refine .cons (fun cs rest h hrest c hc => ?_) (ih (f := { f with rule := some a }) hkeys.2
        hrest (gathers_other (by decide) hfatal) (gathers_other (by decide) htext))
      simpa [messageMember, hnone] using field_of_near ha _ h hrest hc
    by_cases hf : key = "fatal"
    · subst hf
      obtain ⟨hnone, a, ha, hrest⟩ := gathers_self hfatal
      refine .cons (fun cs rest h hrest c hc => ?_) (ih (f := { f with fatal := some a }) hkeys.2
        (gathers_other hr hrule) hrest (gathers_other (by decide) htext))
      simpa [messageMember, hnone] using field_of_near ha _ h hrest hc
    by_cases ht : key = "message"
    · subst ht
      obtain ⟨hnone, a, ha, hrest⟩ := gathers_self htext
      refine .cons (fun cs rest h hrest c hc => ?_) (ih (f := { f with text := some a }) hkeys.2
        (gathers_other hr hrule) (gathers_other hf hfatal) hrest)
      simpa [messageMember, hnone] using field_of_near ha _ h hrest hc
    · refine .cons (fun cs rest h hrest c hc => ?_) (ih hkeys.2 (gathers_other hr hrule)
        (gathers_other hf hfatal) (gathers_other ht htext))
      simpa [messageMember, hr, hf, ht] using skipField_of_near f h hrest hc

theorem IsRule.exists_rel {v? : Option Value} {rule : Option String} (h : IsRule v? rule) :
    ∃ new, Option.Rel (Understands optionalText) v? new ∧ new.getD none = rule := by
  cases h with
  | absent => exact ⟨none, .none, rfl⟩
  | null => exact ⟨some none, .some understands_optionalText_null, rfl⟩
  | named s => exact ⟨some (some s), .some (understands_optionalText s), rfl⟩

theorem IsFlag.exists_rel {v? : Option Value} {b : Bool} (h : IsFlag v? b) :
    ∃ new, Option.Rel (Understands booleanValue) v? new ∧ new.getD false = b := by
  cases h with
  | absent => exact ⟨none, .none, rfl⟩
  | given b => exact ⟨some b, .some (understands_booleanValue b), rfl⟩

theorem IsNote.exists_rel {v? : Option Value} {s : String} (h : IsNote v? s) :
    ∃ new, Option.Rel (Understands textValue) v? new ∧ new.getD "" = s := by
  cases h with
  | absent => exact ⟨none, .none, rfl⟩
  | given s => exact ⟨some s, .some (understands_textValue s), rfl⟩

/-- What is mapped to behind a reader is understood if the value is. -/
theorem understands_map {get : Cursor → Except Error (σ × Cursor)} {t : σ}
    (h : Understands get v t) (f : σ → α) :
    Understands (fun c => (get c).map fun r => (f r.1, r.2)) v (f t) := by
  intro cs back rest hv hback hrest c hc
  obtain ⟨c', hread, hc'⟩ := h cs back rest hv hback hrest c hc
  exact ⟨c', by simp [hread, Except.map], hc'⟩

theorem IsMessage.understands {m : Message} (h : IsMessage v m) :
    Understands messageReader.read v m := by
  obtain ⟨ms, rfl, hkeys, hcount⟩ := h.record
  simp only [List.forall_mem_cons] at hcount
  obtain ⟨rule, hrule, hruleD⟩ := h.rule.exists_rel
  obtain ⟨fatal, hfatal, hfatalD⟩ := h.fatal.exists_rel
  obtain ⟨text, htext, htextD⟩ := h.text.exists_rel
  have hfills : Fills messageMember {} ms ⟨rule, fatal, text⟩ :=
    fills_message hkeys (gathers_of_lookup hcount.1 hrule) (gathers_of_lookup hcount.2.1 hfatal)
      (gathers_of_lookup hcount.2.2.1 htext)
  have hm : MessageFields.toMessage ⟨rule, fatal, text⟩ = m := by
    rw [MessageFields.toMessage, hruleD, hfatalD, htextD]
  rw [← hm]
  exact understands_map (understands_record hfills _ _) MessageFields.toMessage

/-! ## Results and reports -/

theorem fills_result {old new : Option (List Message)} (hkeys : ∀ m ∈ ms, ∃ key, m.1 = units key)
    (h : Gathers (Understands (listValue messageReader)) "messages" ms old new) :
    Fills resultMember old ms new := by
  induction ms generalizing old with
  | nil =>
    cases h
    exact .nil _
  | cons m ms ih =>
    obtain ⟨k, v⟩ := m
    rw [List.forall_mem_cons] at hkeys
    obtain ⟨key, rfl⟩ := hkeys.1
    by_cases hk : key = "messages"
    · subst hk
      obtain ⟨rfl, a, ha, hrest⟩ := gathers_self h
      refine .cons (fun cs rest h hrest c hc => ?_) (ih hkeys.2 hrest)
      simpa [resultMember] using field_of_near ha some h hrest hc
    · refine .cons (fun cs rest h hrest c hc => ?_) (ih hkeys.2 (gathers_other hk h))
      simpa [resultMember, hk] using skipField_of_near old h hrest hc

theorem IsMessages.exists_rel {v? : Option Value} {messages : List Message}
    (h : IsMessages v? messages) :
    ∃ new, Option.Rel (Understands (listValue messageReader)) v? new ∧ new.getD [] = messages := by
  cases h with
  | absent => exact ⟨none, .none, rfl⟩
  | given h =>
    have hlist := understands_listValue (h.imp fun _ _ => IsMessage.understands)
    exact ⟨some messages, .some hlist, rfl⟩

theorem IsResult.understands {messages : List Message} (h : IsResult v messages) :
    Understands resultReader.read v messages := by
  obtain ⟨ms, rfl, hkeys, hcount⟩ := h.record
  obtain ⟨new, hmessages, rfl⟩ := h.messages.exists_rel
  have hfills := fills_result hkeys
    (gathers_of_lookup (hcount "messages" (List.mem_singleton_self _)) hmessages)
  exact understands_map (understands_record hfills _ _) (·.getD [])

/-- Of a whole text, what the list reader understands is what it gives. -/
theorem results_of_understands {reports : List (List Message)} (h : IsText v cs)
    (hu : Understands (listValue resultReader) v reports) :
    results (Utf8.encode (String.ofList cs)) = .ok reports := by
  cases h with
  | item hfront hv hback =>
    have hat : Cursor.At ⟨(Utf8.encode (String.ofList cs)).data.toList, ⟨1, 0⟩⟩ cs :=
      octets_ofList cs
    obtain ⟨c', hread, hc'⟩ := hu _ _ _ hv hback nofun _ ⟨cs, hat, hfront⟩
    have hend : c'.skipBlanks.peek? = none := by
      rw [Cursor.peek?, show c'.skipBlanks.rest = _ from hc'.at_skipBlanks nofun]
      rfl
    simp [results, hread, hend, bind, Except.bind, pure, Except.pure]

theorem results_of_isReport {reports : List (List Message)} (h : IsText v cs)
    (hv : IsReport v reports) : results (Utf8.encode (String.ofList cs)) = .ok reports := by
  obtain ⟨vs, rfl, hvs⟩ := hv
  exact results_of_understands h (understands_listValue (hvs.imp fun _ _ => IsResult.understands))

/--
Whatever text spells a report, it is read: blanks, the order of members, escapes and members of
other names make no difference, nor does it matter how deep what these hold is. The rules are those
that messages name, each once, in the order in which they are first named.
-/
theorem reads_report {reports : List (List Message)} (file : Path) (h : IsText v cs)
    (hv : IsReport v reports) :
    ∃ set, (read file (Utf8.encode (String.ofList cs))).value = .ok set ∧
      set.rules = (reports.flatten.filterMap (·.rule)).eraseDups := by
  refine ⟨rulesOf reports.flatten, ?_, RuleSet.rules_ofList _⟩
  rw [read, results_of_isReport h hv]

/-! ## A report -/

/-- A document is a record if none of the names is given twice. -/
theorem isRecord_value {names : List String} {ms : List (String × Document)}
    (h : ∀ name ∈ names, (ms.map (·.1)).count name ≤ 1) :
    IsRecord names (Document.object ms).value := by
  have hentries : (Document.entries ms).map (·.1) = (ms.map (·.1)).map units := by
    clear h
    induction ms with
    | nil => rfl
    | cons m ms ih => rw [Document.entries, List.map_cons, List.map_cons, List.map_cons, ih]
  refine ⟨_, rfl, fun m hm => ?_, fun name hname => ?_⟩
  · have hkey : m.1 ∈ (Document.entries ms).map (·.1) := List.mem_map_of_mem hm
    rw [hentries] at hkey
    obtain ⟨key, -, hkey⟩ := List.mem_map.1 hkey
    exact ⟨key, hkey.symm⟩
  · rw [hentries, List.count_map_of_injective _ _ fun _ _ => units_inj]
    exact h name hname

/-- Three results, one without messages, with members that nobody looks at. -/
def sample : Document :=
  .list [
    .object [("filePath", .string "/a.js"), ("messages", .list [
      .object [("ruleId", .string "semi"),
        ("fix", .object [("range", .list [.number 1, .list []])])],
      .object [("message", .string "tab\t\x01 é"), ("fatal", .boolean true)],
      .object [("ruleId", .string "no-var")]])],
    .object [("messages", .list [.object [("ruleId", .string "semi")]])],
    .object []]

/-- The messages in it. -/
def sampleResults : List (List Message) :=
  [[{ rule := some "semi" }, { fatal := true, text := "tab\t\x01 é" }, { rule := some "no-var" }],
    [{ rule := some "semi" }], []]

theorem isReport_sample : IsReport sample.value sampleResults :=
  ⟨_, rfl, .cons ⟨isRecord_value (by decide), .given
      (.cons ⟨isRecord_value (by decide), .named "semi", .absent, .absent⟩
      (.cons ⟨isRecord_value (by decide), .absent, .given true, .given "tab\t\x01 é"⟩
      (.cons ⟨isRecord_value (by decide), .named "no-var", .absent, .absent⟩ .nil)))⟩
    (.cons ⟨isRecord_value (by decide), .given
      (.cons ⟨isRecord_value (by decide), .named "semi", .absent, .absent⟩ .nil)⟩
    (.cons ⟨isRecord_value (by decide), .absent⟩ .nil))⟩

/-- The report is read from its text, and its rules are those of the two results with messages. -/
theorem reads_report_sample :
    IsText sample.value sample.toText.toList ∧ IsReport sample.value sampleResults ∧
      ∃ set, (read ⟨"/a.js"⟩ (Utf8.encode sample.toText)).value = .ok set ∧
        set.rules = ["semi", "no-var"] := by
  have htext := Document.isText_toText sample
  obtain ⟨set, hread, hrules⟩ := reads_report ⟨"/a.js"⟩ htext isReport_sample
  rw [String.ofList_toList] at hread
  exact ⟨htext, isReport_sample, set, hread, hrules⟩

end BulkSuppress.LintReport
