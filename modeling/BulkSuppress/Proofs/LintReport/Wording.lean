import BulkSuppress.Proofs.Json.Failing
import BulkSuppress.Proofs.LintReport.Reports

/-
  What the wording of messages has to do with their rules. A report of objects is written as the
  members of its results and messages (`ResultEntry`, `MessageEntry`), and what is read of it is
  told member by member: `readReport` gives it, or nothing if reading fails, and that is what
  happens to every text (`results_eq`). The wording is one of the members, and is read like the
  others. As long as it is a text, it makes no difference to the rules (`readReport_muted`). But
  JSON has strings that are no texts, as they escape half of a surrogate pair. Elsewhere such a
  string is skipped; in a wording it makes the report unreadable (`readReport_eq_none`).
-/

namespace BulkSuppress.LintReport

open Json

variable {α β σ : Type} {v : Value} {c : Cursor} {cs cs' rest : List Char} {us : List Nat}

/-! ## Written reports -/

/-- A member of a message. -/
inductive MessageEntry where
  | rule (name : Option String)
  | fatal (b : Bool)
  /-- The wording, which may be any string. -/
  | wording (us : List Nat)
  | other (key : List Nat) (v : Value)
    (h : key ∉ [units "ruleId", units "fatal", units "message"])

/-- A member of a result. -/
inductive ResultEntry where
  | messages (ms : List (List MessageEntry))
  | other (key : List Nat) (v : Value) (h : key ≠ units "messages")

/-- A report as it is written: the members of each result. -/
abbrev WrittenReport := List (List ResultEntry)

def ruleValue : Option String → Value
  | none => .null
  | some name => .string (units name)

def MessageEntry.member : MessageEntry → List Nat × Value
  | .rule name => (units "ruleId", ruleValue name)
  | .fatal b => (units "fatal", .boolean b)
  | .wording us => (units "message", .string us)
  | .other key v _ => (key, v)

def messageValue (es : List MessageEntry) : Value := .object (es.map MessageEntry.member)

def ResultEntry.member : ResultEntry → List Nat × Value
  | .messages ms => (units "messages", .list (ms.map messageValue))
  | .other key v _ => (key, v)

def resultValue (ps : List ResultEntry) : Value := .object (ps.map ResultEntry.member)

def reportValue (r : WrittenReport) : Value := .list (r.map resultValue)

/-! ## What is read -/

/-- What is kept of the value for a name: nothing may have been kept before. -/
def enter (old : Option α) (new : Option α) (set : α → σ) : Option σ :=
  match old with
  | some _ => none
  | none => new.map set

def takeMessageEntry (f : MessageFields) : MessageEntry → Option MessageFields
  | .rule name => enter f.rule (some name) fun x => { f with rule := some x }
  | .fatal b => enter f.fatal (some b) fun x => { f with fatal := some x }
  | .wording us => enter f.text (textOf? us) fun x => { f with text := some x }
  | .other key _ _ => (textOf? key).map fun _ => f

def readMessage (es : List MessageEntry) : Option Message :=
  (es.foldlM takeMessageEntry {}).map MessageFields.toMessage

def takeResultEntry (old : Option (List Message)) : ResultEntry → Option (Option (List Message))
  | .messages ms => enter old (ms.mapM readMessage) some
  | .other key _ _ => (textOf? key).map fun _ => old

def readResult (ps : List ResultEntry) : Option (List Message) :=
  (ps.foldlM takeResultEntry none).map (·.getD [])

/-- What is read of a report, if it is read. -/
def readReport (r : WrittenReport) : Option (List (List Message)) := r.mapM readResult

/-! ### Members -/

variable {m : MemberReader σ} {t : σ} {key : String} {k : List Nat}
variable {get : Cursor → Except Error (α × Cursor)}

theorem field_fails (hf : Fails get v) (set : α → β) (h : Spells (.item v) cs rest)
    (hrest : EndsItem rest) (hc : c.Near (':' :: cs)) :
    ∃ e, field none key c get set = .error e := by
  obtain ⟨c₁, hcolon, hc₁⟩ := colon_of_near hc
  cases h with
  | item hfront hv hback =>
    obtain ⟨e, he⟩ := hf _ _ _ hv hback hrest c₁ ⟨_, hc₁, hfront⟩
    exact ⟨e, by simp [field, hcolon, he, bind, Except.bind]⟩

/-- A member of a known name is taken up if it is the first of its name, and its value is read. -/
theorem steps_field {old new : Option α} {set : α → σ}
    (hread : ∀ c, m.read t key c = field old key c get set) (hv : Meets get v new) :
    Steps m t (units key, v) (enter old new set) := by
  cases old with
  | some x =>
    refine .inr ⟨key, rfl, fun _ _ _ _ c _ => ?_⟩
    rw [hread, field, repeatedKey, Cursor.fail]
    exact ⟨_, rfl⟩
  | none =>
    cases new with
    | none =>
      refine .inr ⟨key, rfl, fun cs rest h hrest c hc => ?_⟩
      rw [hread]
      exact field_fails hv set h hrest hc
    | some a =>
      refine ⟨key, rfl, fun cs rest h hrest c hc => ?_⟩
      rw [hread]
      exact field_of_near hv set h hrest hc

/-- A member of another name is passed over, if its name is a text. -/
theorem steps_skip (hread : ∀ key c, k = units key → m.read t key c = skipField t c) :
    Steps m t (k, v) ((textOf? k).map fun _ => t) := by
  cases hk : textOf? k with
  | none => exact .inl hk
  | some name =>
    have hname := textOf?_eq_some_iff.1 hk
    refine ⟨name, hname, fun cs rest h hrest c hc => ?_⟩
    rw [hread _ _ hname]
    exact skipField_of_near t h hrest hc

/-- An object is read as the record that its members come to. -/
theorem meets_record {start : σ} {ms : List (List Nat × Value)} {o : Option σ}
    (h : Runs m start ms o) (expected : String) (fields : Cursor → Except Error (σ × Cursor)) :
    Meets (record expected m start fields) (.object ms) o := by
  cases o with
  | some filled => exact understands_record h expected fields
  | none =>
    intro cs back rest hspells _ _ c hc
    have hplain := hspells.startsPlain_value
    cases hspells with
    | object hmembers =>
      have hinside := (hc.at_skipBlanks hplain).advance (by decide)
      obtain ⟨e, he⟩ := members_of_blocks h hmembers hinside.atNext
      have hne : ascii '\x7b' ≠ ascii '[' := by decide
      refine ⟨e, ?_⟩
      simp [record, valueStart_of_near (by decide) hplain hc, bind, Except.bind, hne, he]

theorem meets_map {get : Cursor → Except Error (σ × Cursor)} {o : Option σ} (h : Meets get v o)
    (f : σ → α) : Meets (fun c => (get c).map fun r => (f r.1, r.2)) v (o.map f) := by
  cases o with
  | some t => exact understands_map h f
  | none =>
    intro cs back rest hv hback hrest c hc
    obtain ⟨e, he⟩ := h cs back rest hv hback hrest c hc
    exact ⟨e, by simp [he, Except.map]⟩

/-! ### Messages, results and reports -/

theorem meets_ruleValue (name : Option String) :
    Meets optionalText (ruleValue name) (some name) := by
  cases name with
  | none => exact understands_optionalText_null
  | some name => exact understands_optionalText name

theorem steps_takeMessageEntry (f : MessageFields) (e : MessageEntry) :
    Steps messageMember f e.member (takeMessageEntry f e) := by
  cases e with
  | rule name =>
    exact steps_field (fun c => by simp [messageMember]) (meets_ruleValue name)
  | fatal b =>
    exact steps_field (fun c => by simp [messageMember]) (understands_booleanValue b)
  | wording us =>
    exact steps_field (fun c => by simp [messageMember]) (meets_textValue us)
  | other key v h =>
    refine steps_skip fun name c hname => ?_
    have hne (known : String) (hknown : units known ∈ _) : name ≠ known :=
      fun e => h (hname ▸ e ▸ hknown)
    simp [messageMember, hne "ruleId" (by simp), hne "fatal" (by simp), hne "message" (by simp)]

theorem meets_message (es : List MessageEntry) :
    Meets messageReader.read (messageValue es) (readMessage es) :=
  meets_map (meets_record (runs_of_steps steps_takeMessageEntry es {}) _ _) MessageFields.toMessage

theorem steps_takeResultEntry (old : Option (List Message)) (p : ResultEntry) :
    Steps resultMember old p.member (takeResultEntry old p) := by
  cases p with
  | messages ms =>
    exact steps_field (fun c => by simp [resultMember]) (meets_listValue meets_message ms)
  | other key v h =>
    refine steps_skip fun name c hname => ?_
    have hne : name ≠ "messages" := fun e => h (hname.trans (e ▸ rfl))
    simp [resultMember, hne]

theorem meets_result (ps : List ResultEntry) :
    Meets resultReader.read (resultValue ps) (readResult ps) :=
  meets_map (meets_record (runs_of_steps steps_takeResultEntry ps none) _ _) (·.getD [])

theorem results_of_fails (h : IsText v cs) (hf : Fails (listValue resultReader) v) :
    ∃ e, results (Utf8.encode (String.ofList cs)) = .error e := by
  cases h with
  | item hfront hv hback =>
    have hat : Cursor.At ⟨(Utf8.encode (String.ofList cs)).data.toList, ⟨1, 0⟩⟩ cs :=
      octets_ofList cs
    obtain ⟨e, he⟩ := hf _ _ _ hv hback nofun _ ⟨cs, hat, hfront⟩
    exact ⟨e, by simp [results, he, bind, Except.bind]⟩

/-- Of a text that spells a report of objects, just that is read. -/
theorem results_eq {r : WrittenReport} (h : IsText (reportValue r) cs) :
    match readReport r with
    | some reports => results (Utf8.encode (String.ofList cs)) = .ok reports
    | none => ∃ e, results (Utf8.encode (String.ofList cs)) = .error e := by
  have hmeets : Meets (listValue resultReader) (reportValue r) (readReport r) :=
    meets_listValue meets_result r
  cases hread : readReport r with
  | some reports =>
    rw [hread] at hmeets
    exact results_of_understands h hmeets
  | none =>
    rw [hread] at hmeets
    exact results_of_fails h hmeets

/-! ## Wordings -/

/-- The member with an empty wording. -/
def MessageEntry.muted : MessageEntry → MessageEntry
  | .wording _ => .wording []
  | e => e

def ResultEntry.muted : ResultEntry → ResultEntry
  | .messages ms => .messages (ms.map (·.map MessageEntry.muted))
  | p => p

/-- The report with empty wordings: what is left of it apart from what they are. -/
def muted (r : WrittenReport) : WrittenReport := r.map (·.map ResultEntry.muted)

/-- The wording is a text. -/
def MessageEntry.IsWorded : MessageEntry → Prop
  | .wording us => ∃ s, us = units s
  | _ => True

def ResultEntry.IsWorded : ResultEntry → Prop
  | .messages ms => ∀ es ∈ ms, ∀ e ∈ es, e.IsWorded
  | _ => True

/-- All wordings are texts. -/
def IsWorded (r : WrittenReport) : Prop := ∀ ps ∈ r, ∀ p ∈ ps, p.IsWorded

/-! ### Texts make no difference -/

theorem foldlM_commutes {take : σ → β → Option σ} {g : σ → σ} {h : β → β} {bs : List β}
    (hstep : ∀ t, ∀ b ∈ bs, take (g t) (h b) = (take t b).map g) (t : σ) :
    (bs.map h).foldlM take (g t) = (bs.foldlM take t).map g := by
  induction bs generalizing t with
  | nil => rfl
  | cons b bs ih =>
    rw [List.map_cons, List.foldlM_cons, List.foldlM_cons, hstep t b List.mem_cons_self]
    cases take t b with
    | none => rfl
    | some u => exact ih (fun t b hb => hstep t b (List.mem_cons_of_mem _ hb)) u

theorem mapM_commutes {f : β → Option α} {g : α → α} {h : β → β} {bs : List β}
    (hb : ∀ b ∈ bs, f (h b) = (f b).map g) : (bs.map h).mapM f = (bs.mapM f).map (List.map g) := by
  induction bs with
  | nil => rfl
  | cons b bs ih =>
    rw [List.map_cons, List.mapM_cons, List.mapM_cons, hb b List.mem_cons_self,
      ih fun b hb' => hb b (List.mem_cons_of_mem _ hb')]
    cases f b with
    | none => rfl
    | some a => cases bs.mapM f <;> rfl

def Message.muted (m : Message) : Message := { m with text := "" }

def MessageFields.muted (f : MessageFields) : MessageFields :=
  { f with text := f.text.map fun _ => "" }

theorem toMessage_muted (f : MessageFields) : f.muted.toMessage = f.toMessage.muted := by
  obtain ⟨rule, fatal, text⟩ := f
  cases text <;> rfl

theorem takeMessageEntry_muted {e : MessageEntry} (he : e.IsWorded) (f : MessageFields) :
    takeMessageEntry f.muted e.muted = (takeMessageEntry f e).map MessageFields.muted := by
  obtain ⟨rule, fatal, text⟩ := f
  cases e with
  | rule name => cases rule <;> rfl
  | fatal b => cases fatal <;> rfl
  | wording us =>
    obtain ⟨s, rfl⟩ := he
    have hempty : textOf? [] = some "" := rfl
    cases text <;> simp [takeMessageEntry, enter, MessageEntry.muted, MessageFields.muted, hempty]
  | other key v h =>
    simp only [takeMessageEntry, MessageEntry.muted]
    cases textOf? key <;> rfl

theorem readMessage_muted {es : List MessageEntry} (h : ∀ e ∈ es, e.IsWorded) :
    readMessage (es.map MessageEntry.muted) = (readMessage es).map Message.muted := by
  have hfold : (es.map MessageEntry.muted).foldlM takeMessageEntry {}
      = (es.foldlM takeMessageEntry {}).map MessageFields.muted :=
    foldlM_commutes (fun f e he => takeMessageEntry_muted (h e he) f) {}
  rw [readMessage, readMessage, hfold, Option.map_map, Option.map_map]
  exact congrArg (Option.map · _) (funext toMessage_muted)

theorem takeResultEntry_muted {p : ResultEntry} (hp : p.IsWorded) (old : Option (List Message)) :
    takeResultEntry (old.map (List.map Message.muted)) p.muted
      = (takeResultEntry old p).map (Option.map (List.map Message.muted)) := by
  cases p with
  | messages ms =>
    have hread := mapM_commutes fun es hes => readMessage_muted (hp es hes)
    rw [ResultEntry.muted, takeResultEntry, takeResultEntry, hread]
    cases old with
    | some x => rfl
    | none => cases ms.mapM readMessage <;> rfl
  | other key v h =>
    simp only [takeResultEntry, ResultEntry.muted]
    cases textOf? key <;> rfl

theorem readResult_muted {ps : List ResultEntry} (h : ∀ p ∈ ps, p.IsWorded) :
    readResult (ps.map ResultEntry.muted) = (readResult ps).map (List.map Message.muted) := by
  have hfold : (ps.map ResultEntry.muted).foldlM takeResultEntry none
      = (ps.foldlM takeResultEntry none).map (Option.map (List.map Message.muted)) :=
    foldlM_commutes (fun old p hp => takeResultEntry_muted (h p hp) old) none
  rw [readResult, readResult, hfold, Option.map_map, Option.map_map]
  refine congrArg (Option.map · _) (funext fun o => ?_)
  cases o <;> rfl

/-- Where all wordings are texts, they are all that changes when they are emptied. -/
theorem readReport_muted {r : WrittenReport} (h : IsWorded r) :
    readReport (muted r) = (readReport r).map (List.map (List.map Message.muted)) :=
  mapM_commutes fun ps hps => readResult_muted (h ps hps)

theorem rulesOf_muted (reports : List (List Message)) :
    rulesOf (reports.map (List.map Message.muted)).flatten = rulesOf reports.flatten := by
  rw [rulesOf, rulesOf, ← List.map_flatten, List.filterMap_map]
  rfl

/-! ### Other strings do -/

theorem foldlM_eq_none {take : σ → β → Option σ} {b : β} {bs : List β} (hb : b ∈ bs)
    (h : ∀ t, take t b = none) (t : σ) : bs.foldlM take t = none := by
  induction bs generalizing t with
  | nil => cases hb
  | cons b' bs ih =>
    rw [List.foldlM_cons]
    rcases List.mem_cons.1 hb with rfl | hb
    · rw [h]
      rfl
    · cases take t b' with
      | none => rfl
      | some u => exact ih hb u

theorem mapM_eq_none {f : β → Option α} {b : β} {bs : List β} (hb : b ∈ bs) (h : f b = none) :
    bs.mapM f = none := by
  induction bs with
  | nil => cases hb
  | cons b' bs ih =>
    rw [List.mapM_cons]
    rcases List.mem_cons.1 hb with rfl | hb
    · rw [h]
      rfl
    · rw [ih hb]
      cases f b' <;> rfl

theorem takeMessageEntry_eq_none {e : MessageEntry} (he : ¬ e.IsWorded) (f : MessageFields) :
    takeMessageEntry f e = none := by
  cases e with
  | wording us =>
    have hus : textOf? us = none := by
      rw [Option.eq_none_iff_forall_ne_some]
      exact fun s hs => he ⟨s, textOf?_eq_some_iff.1 hs⟩
    rw [takeMessageEntry, hus]
    cases f.text <;> rfl
  | _ => exact absurd trivial he

theorem takeResultEntry_eq_none {p : ResultEntry} (hp : ¬ p.IsWorded)
    (old : Option (List Message)) : takeResultEntry old p = none := by
  cases p with
  | messages ms =>
    simp only [ResultEntry.IsWorded, not_forall] at hp
    obtain ⟨es, hes, e, he, hworded⟩ := hp
    have hmessage : readMessage es = none := by
      rw [readMessage, foldlM_eq_none he (takeMessageEntry_eq_none hworded)]
      rfl
    rw [takeResultEntry, mapM_eq_none hes hmessage]
    cases old <;> rfl
  | other => exact absurd trivial hp

/-- Nothing is read of a report with a wording that is no text. -/
theorem readReport_eq_none {r : WrittenReport} (h : ¬ IsWorded r) : readReport r = none := by
  simp only [IsWorded, not_forall] at h
  obtain ⟨ps, hps, p, hp, hworded⟩ := h
  refine mapM_eq_none hps ?_
  rw [readResult, foldlM_eq_none hp (takeResultEntry_eq_none hworded)]
  rfl

/-- Nothing is read if a wording is no text, or if nothing is read for another reason. -/
theorem readReport_eq_none_iff {r : WrittenReport} :
    readReport r = none ↔ IsWorded r → readReport (muted r) = none := by
  by_cases h : IsWorded r
  · rw [readReport_muted h, Option.map_eq_none_iff]
    exact ⟨fun hr _ => hr, fun hr => hr h⟩
  · exact ⟨fun _ hw => absurd hw h, fun _ => readReport_eq_none h⟩

/-! ## Two reports that differ in their wording -/

/-- The rules that a text is read as. -/
def rulesIn (file : Path) (cs : List Char) : Except Failure RuleSet :=
  (read file (Utf8.encode (String.ofList cs))).value

/-- Both come to the same rules, or neither comes to any. -/
def SameRules (x y : Except Failure RuleSet) : Prop :=
  (∃ set, x = .ok set ∧ y = .ok set) ∨ ∃ e e', x = .error e ∧ y = .error e'

theorem rulesIn_eq {r : WrittenReport} (file : Path) (h : IsText (reportValue r) cs) :
    match readReport r with
    | some reports => rulesIn file cs = .ok (rulesOf reports.flatten)
    | none => ∃ e, rulesIn file cs = .error (.lint file.text (.unreadable e)) := by
  have hresults := results_eq h
  cases hread : readReport r with
  | some reports =>
    rw [hread] at hresults
    simp only [rulesIn, read, hresults]
  | none =>
    rw [hread] at hresults
    obtain ⟨e, he⟩ := hresults
    exact ⟨e, by simp only [rulesIn, read, he]⟩

theorem rulesIn_eq_error_iff {r : WrittenReport} (file : Path) (h : IsText (reportValue r) cs) :
    (∃ e, rulesIn file cs = .error e) ↔ readReport r = none := by
  have hread := rulesIn_eq file h
  cases hr : readReport r with
  | none =>
    rw [hr] at hread
    obtain ⟨e, he⟩ := hread
    exact ⟨fun _ => rfl, fun _ => ⟨_, he⟩⟩
  | some reports =>
    rw [hr] at hread
    simp [hread]

/-- The rules are the same for all wordings that are texts. -/
theorem sameRules_of_isWorded {r r' : WrittenReport} (file : Path)
    (h : IsText (reportValue r) cs) (h' : IsText (reportValue r') cs')
    (hsame : muted r = muted r') (hw : IsWorded r) (hw' : IsWorded r') :
    SameRules (rulesIn file cs) (rulesIn file cs') := by
  have hread := rulesIn_eq file h
  have hread' := rulesIn_eq file h'
  have hmuted := readReport_muted hw
  rw [hsame, readReport_muted hw'] at hmuted
  cases hr : readReport r with
  | none =>
    rw [hr, Option.map_none, Option.map_eq_none_iff] at hmuted
    rw [hr] at hread
    rw [hmuted] at hread'
    obtain ⟨e, he⟩ := hread
    obtain ⟨e', he'⟩ := hread'
    exact .inr ⟨_, _, he, he'⟩
  | some reports =>
    rw [hr, Option.map_some, Option.map_eq_some_iff] at hmuted
    obtain ⟨reports', hr', hsame⟩ := hmuted
    rw [hr] at hread
    rw [hr'] at hread'
    refine .inl ⟨_, hread, ?_⟩
    rw [hread', ← rulesOf_muted reports', hsame, rulesOf_muted]

theorem SameRules.error_iff {x y : Except Failure RuleSet} (h : SameRules x y) :
    (∃ e, x = .error e) ↔ ∃ e, y = .error e := by
  rcases h with ⟨set, rfl, rfl⟩ | ⟨e, e', rfl, rfl⟩ <;> simp

/--
Reports that differ in their wording only come to the same rules exactly if the wordings are texts
in both or in neither, or something else is wrong with them. A report with a wording that is no
text is unreadable, whatever rules it names.
-/
theorem reworded_reads_alike {r r' : WrittenReport} (file : Path)
    (h : IsText (reportValue r) cs) (h' : IsText (reportValue r') cs')
    (hsame : muted r = muted r') :
    (SameRules (rulesIn file cs) (rulesIn file cs') ↔
      (IsWorded r ↔ IsWorded r') ∨ readReport (muted r) = none) ∧
    (¬ IsWorded r → ∃ e, rulesIn file cs = .error (.lint file.text (.unreadable e))) := by
  have herror := rulesIn_eq_error_iff file h
  have herror' := rulesIn_eq_error_iff file h'
  rw [readReport_eq_none_iff] at herror herror'
  rw [← hsame] at herror'
  have hboth (hw : IsWorded r → readReport (muted r) = none)
      (hw' : IsWorded r' → readReport (muted r) = none) :
      SameRules (rulesIn file cs) (rulesIn file cs') := by
    obtain ⟨e, he⟩ := herror.2 hw
    obtain ⟨e', he'⟩ := herror'.2 hw'
    exact .inr ⟨e, e', he, he'⟩
  refine ⟨⟨fun hrules => ?_, ?_⟩, fun hw => ?_⟩
  · have hiff := herror.symm.trans (hrules.error_iff.trans herror')
    by_cases hnone : readReport (muted r) = none
    · exact .inr hnone
    · simp only [hnone, imp_false] at hiff
      exact .inl (not_iff_not.1 hiff)
  · rintro (hiff | hnone)
    · by_cases hw : IsWorded r
      · exact sameRules_of_isWorded file h h' hsame hw (hiff.1 hw)
      · exact hboth (fun hw' => absurd hw' hw) fun hw' => absurd (hiff.2 hw') hw
    · exact hboth (fun _ => hnone) fun _ => hnone
  · have hread := rulesIn_eq file h
    rw [readReport_eq_none hw] at hread
    exact hread

/-! ### Half of a pair -/

/-- One message that names a rule. -/
def oneMessage (us : List Nat) : WrittenReport :=
  [[.messages [[.rule (some "semi"), .wording us]]]]

/-- A text for it, with the given spelling of the wording. -/
def oneMessageText (wording : String) : List Char :=
  "[\x7b\"messages\":[\x7b\"ruleId\":\"semi\",\"message\":\"".toList ++ wording.toList ++
    "\"\x7d]\x7d]".toList

theorem spells_member {key : String} (hkey : key.toList.flatMap Document.escapeChar = key.toList)
    (h : Spells (.item v) cs rest) :
    Spells (.member (units key, v)) ('"' :: (key.toList ++ '"' :: ':' :: cs)) rest := by
  have hbody := Document.body_stringText key (':' :: cs)
  rw [hkey] at hbody
  exact .member (.none _) hbody (.none _) h

theorem isText_oneMessageText {wording : String}
    (h : ∀ rest, Body us (wording.toList ++ '"' :: rest) rest) :
    IsText (reportValue (oneMessage us)) (oneMessageText wording) := by
  have hrule (rest : List Char) : Spells (.member (units "ruleId", .string (units "semi")))
      ("\"ruleId\":\"semi\"".toList ++ rest) rest :=
    spells_member (by decide) (.item (.none _) (.string (Document.body_stringText "semi" rest))
      (.none _))
  have hwording (rest : List Char) : Spells (.member (units "message", .string us))
      ("\"message\":\"".toList ++ (wording.toList ++ '"' :: rest)) rest :=
    spells_member (by decide) (.item (.none _) (.string (h rest)) (.none _))
  have hmessage (rest : List Char) := Spells.object
    (.moreMembers (hrule _) (.lastMember (hwording ('\x7d' :: rest))))
  have hmessages (rest : List Char) : Spells (.member (units "messages", .list _)) _ rest :=
    spells_member (by decide) (.item (.none _) (.list (.lastItem (.item (.none _)
      (hmessage (']' :: rest)) (.none _)))) (.none _))
  have hresult (rest : List Char) := Spells.object
    (.lastMember (hmessages ('\x7d' :: rest)))
  have hreport := Spells.list (.lastItem (.item (.none _) (hresult [']']) (.none _)))
  have hvalue : reportValue (oneMessage us) = .list [.object [(units "messages", .list [.object
      [(units "ruleId", .string (units "semi")), (units "message", .string us)]])]] := rfl
  rw [IsText, hvalue]
  refine .item (.none _) ?_ (.none _)
  unfold oneMessageText
  rw [List.append_assoc]
  exact hreport

theorem isWorded_oneMessage : IsWorded (oneMessage us) ↔ ∃ s, us = units s := by
  simp [IsWorded, oneMessage, ResultEntry.IsWorded, MessageEntry.IsWorded]

/-- The wordings of the same message: empty, one character by its pair, and half of the pair. -/
theorem isText_wordings : IsText (reportValue (oneMessage [])) (oneMessageText "") ∧
    IsText (reportValue (oneMessage (units "𝄞"))) (oneMessageText "\\ud834\\udd1e") ∧
    IsText (reportValue (oneMessage [0xD834])) (oneMessageText "\\ud834") :=
  ⟨isText_oneMessageText fun _ => .close,
    isText_oneMessageText fun _ => .code (u := 0xD834) rfl (.code (u := 0xDD1E) rfl .close),
    isText_oneMessageText fun _ => .code rfl .close⟩

/-- Half of a pair is no text. -/
theorem not_isWorded_half : ¬ IsWorded (oneMessage [0xD834]) := by
  rw [isWorded_oneMessage]
  rintro ⟨s, hs⟩
  have hnone : textOf? [0xD834] = none := rfl
  rw [hs, textOf?_units] at hnone
  cases hnone

/-- An escaped pair is as good as no wording, and half of it is not. -/
theorem reworded_reads_alike_halves :
    SameRules (rulesIn ⟨"a.js"⟩ (oneMessageText ""))
      (rulesIn ⟨"a.js"⟩ (oneMessageText "\\ud834\\udd1e")) ∧
    ∃ e, rulesIn ⟨"a.js"⟩ (oneMessageText "\\ud834") = .error (.lint "a.js" (.unreadable e)) := by
  obtain ⟨hempty, hpair, hhalf⟩ := isText_wordings
  have hworded : IsWorded (oneMessage []) ↔ IsWorded (oneMessage (units "𝄞")) :=
    iff_of_true (isWorded_oneMessage.2 ⟨"", rfl⟩) (isWorded_oneMessage.2 ⟨"𝄞", rfl⟩)
  exact ⟨(reworded_reads_alike ⟨"a.js"⟩ hempty hpair rfl).1.2 (.inl hworded),
    (reworded_reads_alike ⟨"a.js"⟩ hhalf hempty rfl).2 not_isWorded_half⟩

/-- Reports of one rule that differ in the wording only, of which one is read and the other not. -/
theorem not_sameRules_half :
    IsText (reportValue (oneMessage [])) (oneMessageText "") ∧
    IsText (reportValue (oneMessage [0xD834])) (oneMessageText "\\ud834") ∧
    muted (oneMessage []) = muted (oneMessage [0xD834]) ∧
    ¬ SameRules (rulesIn ⟨"a.js"⟩ (oneMessageText ""))
      (rulesIn ⟨"a.js"⟩ (oneMessageText "\\ud834")) := by
  obtain ⟨hempty, -, hhalf⟩ := isText_wordings
  refine ⟨hempty, hhalf, rfl, ?_⟩
  have hread := rulesIn_eq ⟨"a.js"⟩ hempty
  have hread' := rulesIn_eq ⟨"a.js"⟩ hhalf
  rw [readReport_eq_none not_isWorded_half] at hread'
  obtain ⟨e, he⟩ := hread'
  have hok : readReport (oneMessage []) = some [[{ rule := some "semi" }]] := rfl
  rw [hok] at hread
  rintro (⟨set, -, hset⟩ | ⟨e, -, he', -⟩)
  · rw [he] at hset
    cases hset
  · rw [hread] at he'
    cases he'

end BulkSuppress.LintReport
