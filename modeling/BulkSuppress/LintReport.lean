import BulkSuppress.Failure
import BulkSuppress.Json.Typed
import BulkSuppress.RuleSet

/-
  The linter's report: a list of results, each with a list of messages that may name the violated
  rule. A result or message may be written as an object, whose unknown members are skipped, or as
  a list of its fields in order.
-/

namespace BulkSuppress.LintReport

open Json

/-- One message of a report. -/
structure Message where
  /-- The violated rule; parse errors and warnings about the file have none. -/
  rule : Option String := none
  /-- The file could not be parsed. -/
  fatal : Bool := false
  text : String := ""
deriving DecidableEq, Repr

/-- The fields of a message that have been read. -/
structure MessageFields where
  rule : Option (Option String) := none
  fatal : Option Bool := none
  text : Option String := none

/-- The message with defaults for the fields that were not given. -/
def MessageFields.toMessage (f : MessageFields) : Message :=
  { rule := f.rule.getD none, fatal := f.fatal.getD false, text := f.text.getD "" }

/-- Read the value of a key that was not given before. -/
def field {α β : Type} (old : Option α) (key : String) (c : Cursor)
    (read : Cursor → Except Error (α × Cursor)) (set : α → β) : Except Error (β × Cursor) :=
  match old with
  | some _ => repeatedKey key c
  | none => do
    let c ← colon c
    let (a, c) ← read c
    return (set a, c)

theorem size_field {α β : Type} {old : Option α} {key : String} {c c' : Cursor}
    {read : Cursor → Except Error (α × Cursor)} {set : α → β} {b : β}
    (hread : ∀ {c c' : Cursor} {a : α}, read c = .ok (a, c') → c'.size < c.size)
    (h : field old key c read set = .ok (b, c')) : c'.size ≤ c.size := by
  unfold field at h
  split at h
  · simp [repeatedKey, Cursor.fail] at h
  · simp only [bind, Except.bind, pure, Except.pure] at h
    split at h
    · cases h
    · rename_i c1 hc1
      have h1 := size_colon hc1
      split at h
      · cases h
      · rename_i w hw
        have h2 := hread hw
        simp only [Except.ok.injEq, Prod.mk.injEq] at h
        rw [← h.2]; omega

/-- Skip the value of a key that means nothing here. -/
def skipField {α : Type} (a : α) (c : Cursor) : Except Error (α × Cursor) := do
  let c ← colon c
  let c ← skipValue c
  return (a, c)

theorem size_skipField {α : Type} {a b : α} {c c' : Cursor} (h : skipField a c = .ok (b, c')) :
    c'.size ≤ c.size := by
  simp only [skipField, bind, Except.bind, pure, Except.pure] at h
  split at h
  · cases h
  · rename_i c1 hc1
    have h1 := size_colon hc1
    split at h
    · cases h
    · rename_i w hw
      have h2 := size_skipValue hw
      simp only [Except.ok.injEq, Prod.mk.injEq] at h
      rw [← h.2]; omega

/-- The members of a message. -/
def messageMember : MemberReader MessageFields where
  read f key c :=
    if key = "ruleId" then field f.rule key c optionalText fun x => { f with rule := some x }
    else if key = "fatal" then field f.fatal key c booleanValue fun x => { f with fatal := some x }
    else if key = "message" then field f.text key c textValue fun x => { f with text := some x }
    else skipField f c
  size_read h := by
    split at h
    · exact size_field size_optionalText h
    split at h
    · exact size_field size_booleanValue h
    split at h
    · exact size_field size_textValue h
    · exact size_skipField h

/-- The next element of a list that stands for a record, if it has one more. -/
def elementAt? {α : Type} (first : Bool) (c : Cursor)
    (read : Cursor → Except Error (α × Cursor)) : Except Error (Option α × Cursor) := do
  match ← nextElement first c with
  | none => return (none, c)
  | some c => (read c).map fun r => (some r.1, r.2)

theorem size_elementAt? {α : Type} {first : Bool} {c c' : Cursor} {a : Option α}
    {read : Cursor → Except Error (α × Cursor)}
    (hread : ∀ {c c' : Cursor} {a : α}, read c = .ok (a, c') → c'.size < c.size)
    (h : elementAt? first c read = .ok (a, c')) : c'.size ≤ c.size := by
  simp only [elementAt?, bind, Except.bind, pure, Except.pure] at h
  split at h
  · cases h
  · rename_i o ho
    split at h
    · simp only [Except.ok.injEq, Prod.mk.injEq] at h
      exact h.2 ▸ Nat.le_refl _
    · rename_i c1
      have h1 := size_nextElement ho
      obtain ⟨⟨x, c2⟩, hr, e⟩ := map_eq_ok h
      have h2 := hread hr
      simp only [Prod.mk.injEq] at e
      rw [← e.2]; omega

/-- The fields of a message written as a list, whose opening bracket has been read. -/
def messageList (c : Cursor) : Except Error (MessageFields × Cursor) := do
  match ← elementAt? true c optionalText with
  | (none, c) => do
    let c ← endList c
    c.fail (.tooShort 0 "struct Message with 3 elements")
  | (some rule, c) =>
    match ← elementAt? false c booleanValue with
    | (none, c) => return ({ rule := some rule }, c)
    | (some fatal, c) =>
      let (text, c) ← elementAt? false c textValue
      return ({ rule := some rule, fatal := some fatal, text }, c)

theorem size_messageList {c c' : Cursor} {f : MessageFields}
    (h : messageList c = .ok (f, c')) : c'.size ≤ c.size := by
  simp only [messageList, bind, Except.bind, pure, Except.pure] at h
  split at h
  · cases h
  · rename_i v hv
    split at h
    · split at h
      · cases h
      · simp [Cursor.fail] at h
    · rename_i rule c1
      have h1 := size_elementAt? size_optionalText hv
      split at h
      · cases h
      · rename_i w hw
        split at h
        · have h2 := size_elementAt? size_booleanValue hw
          simp only [Except.ok.injEq, Prod.mk.injEq] at h
          rw [← h.2]; omega
        · have h2 := size_elementAt? size_booleanValue hw
          split at h
          · cases h
          · rename_i x hx
            have h3 := size_elementAt? size_textValue hx
            simp only [Except.ok.injEq, Prod.mk.injEq] at h
            rw [← h.2]; omega

/-- A record that is written as an object or as a list of its fields. -/
def record {σ : Type} (expected : String) (r : MemberReader σ) (start : σ)
    (fields : Cursor → Except Error (σ × Cursor)) (c : Cursor) : Except Error (σ × Cursor) := do
  let (b, c) ← valueStart c
  if b = ascii '[' then do
    let (s, c) ← fields c.advance
    let c ← endList c
    return (s, c)
  else if b = ascii '\x7b' then do
    let (s, c) ← members r true start c.advance
    let c ← endObject c
    return (s, c)
  else wrongType expected c

theorem size_record {σ : Type} {expected : String} {r : MemberReader σ} {start s : σ}
    {fields : Cursor → Except Error (σ × Cursor)} {c c' : Cursor}
    (hfields : ∀ {c c' : Cursor} {s : σ}, fields c = .ok (s, c') → c'.size ≤ c.size)
    (h : record expected r start fields c = .ok (s, c')) : c'.size < c.size := by
  simp only [record, bind, Except.bind, pure, Except.pure] at h
  split at h
  · cases h
  · rename_i v hv
    obtain ⟨h1, h2⟩ := size_valueStart hv
    split at h
    · split at h
      · cases h
      · rename_i w hw
        have h3 := hfields hw
        simp only [Cursor.size_advance] at h3
        split at h
        · cases h
        · rename_i c3 hc3
          have h4 := size_endList hc3
          simp only [Except.ok.injEq, Prod.mk.injEq] at h
          rw [← h.2]; omega
    · split at h
      · split at h
        · cases h
        · rename_i w hw
          have h3 := size_members hw
          simp only [Cursor.size_advance] at h3
          split at h
          · cases h
          · rename_i c3 hc3
            have h4 := size_endObject hc3
            simp only [Except.ok.injEq, Prod.mk.injEq] at h
            rw [← h.2]; omega
      · exact absurd h wrongType_ne_ok

/-- A message. -/
def messageReader : Reader Message where
  read c := (record "struct Message" messageMember {} messageList c).map fun r =>
    (r.1.toMessage, r.2)
  size_read h := by
    obtain ⟨⟨s, c2⟩, hr, e⟩ := map_eq_ok h
    have := size_record size_messageList hr
    simp only [Prod.mk.injEq] at e
    rw [← e.2]; exact this

/-- The members of a result; only its messages are of interest. -/
def resultMember : MemberReader (Option (List Message)) where
  read ms key c :=
    if key = "messages" then field ms key c (listValue messageReader) some
    else skipField ms c
  size_read h := by
    split at h
    · exact size_field size_listValue h
    · exact size_skipField h

/-- The messages of a result written as a list, whose opening bracket has been read. -/
def resultList (c : Cursor) : Except Error (Option (List Message) × Cursor) :=
  elementAt? true c (listValue messageReader)

/-- The messages of a result. -/
def resultReader : Reader (List Message) where
  read c := (record "struct FileReport" resultMember none resultList c).map fun r =>
    (r.1.getD [], r.2)
  size_read h := by
    obtain ⟨⟨s, c2⟩, hr, e⟩ := map_eq_ok h
    have := size_record (fun h => size_elementAt? size_listValue h) hr
    simp only [Prod.mk.injEq] at e
    rw [← e.2]; exact this

/-- The messages of each result of a report. -/
def results (bytes : ByteArray) : Except Error (List (List Message)) := do
  let (rs, c) ← listValue resultReader ⟨bytes.data.toList, ⟨1, 0⟩⟩
  let c := c.skipBlanks
  if c.peek?.isSome then c.failNext .trailingCharacters else return rs

/-- The distinct rules that messages name, in the order of their first mention. -/
def rulesOf (messages : List Message) : RuleSet :=
  RuleSet.ofList (messages.filterMap (·.rule))

/-- What is said about a message of a file. -/
def messageEvents (file : Path) (m : Message) : List Event :=
  if m.rule.isNone && m.fatal then
    [.warn (file.text ++ " could not be linted (" ++ m.text ++ "); leaving it unannotated")]
  else []

/-- The rules that a report names. -/
def read (file : Path) (bytes : ByteArray) : Logged (Except Failure RuleSet) :=
  match results bytes with
  | .error e => ⟨.error (.lint file.text (.unreadable e)), []⟩
  | .ok rs => ⟨.ok (rulesOf rs.flatten), rs.flatten.flatMap (messageEvents file)⟩

end BulkSuppress.LintReport
