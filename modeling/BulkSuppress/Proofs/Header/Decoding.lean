import BulkSuppress.Proofs.Header.Suppression
import BulkSuppress.Proofs.Pipeline.Alone
import BulkSuppress.Proofs.Text.Octets

/-
  Headers read back. Given how many rules the header of a file is for, `takeApart?` takes the bytes
  of the file apart, into the configured text, the rules and the bytes behind the header. It counts
  lines, and does not look at what is in them to find where the header ends: the content may begin
  with a header of its own, and the texts may look like parts of one. For this the configured text
  and the rules must have no LF. `takeApart?_build` is the inverse law, and `annotate_lossless` what
  follows for the files that the pipeline writes: nothing of what was put in is lost.
-/

namespace BulkSuppress

namespace Header
open Utf8 (octets)

variable {line rest : List UInt8} {remark text : String} {rules : RuleSet} {content : ByteArray}

/-! ## Lines of bytes -/

/-- The byte of an LF. -/
def lineFeed : UInt8 := 0x0A

/-- The bytes up to the first LF, and those after it. -/
def cutLine (bytes : List UInt8) : List UInt8 × List UInt8 :=
  (bytes.takeWhile (· != lineFeed), (bytes.dropWhile (· != lineFeed)).drop 1)

/-- The first `n` lines without their LFs, and the bytes after them. -/
def cutLines : Nat → List UInt8 → List (List UInt8) × List UInt8
  | 0, bytes => ([], bytes)
  | n + 1, bytes =>
    let r := cutLines n (cutLine bytes).2
    ((cutLine bytes).1 :: r.1, r.2)

/-- The bytes without the first `n` lines. -/
def dropLines (n : Nat) (bytes : ByteArray) : ByteArray :=
  ⟨(cutLines n bytes.data.toList).2.toArray⟩

theorem cutLine_append (h : lineFeed ∉ line) (rest : List UInt8) :
    cutLine (line ++ lineFeed :: rest) = (line, rest) := by
  have hline : ∀ b ∈ line, (b != lineFeed) = true := fun b hb =>
    bne_iff_ne.2 fun heq => h (heq ▸ hb)
  obtain ⟨htake, hdrop⟩ := takeWhile_append_cons (p := (· != lineFeed)) (bne_self_eq_false _)
    line rest
  rw [cutLine, htake, hdrop, List.takeWhile_eq_self_iff.2 hline, List.dropWhile_eq_nil_iff.2 hline]
  rfl

/-- Cutting as many lines off as were put in front gives these and the rest. -/
theorem cutLines_append {ls : List (List UInt8)} (h : ∀ line ∈ ls, lineFeed ∉ line)
    (rest : List UInt8) :
    cutLines ls.length (ls.flatMap (· ++ [lineFeed]) ++ rest) = (ls, rest) := by
  induction ls with
  | nil => rfl
  | cons line ls ih =>
    rw [List.forall_mem_cons] at h
    have hfirst : (line :: ls).flatMap (· ++ [lineFeed]) ++ rest
        = line ++ lineFeed :: (ls.flatMap (· ++ [lineFeed]) ++ rest) := by simp
    rw [List.length_cons, cutLines, hfirst, cutLine_append h.1, ih h.2]

theorem lineFeed_mem_octets_iff : lineFeed ∈ octets text ↔ '\n' ∈ text.toList :=
  Utf8.mem_octets_iff (c := '\n') (by decide)

theorem octets_lines (ls : List String) :
    octets (ls.foldr (fun line rest => line ++ "\n" ++ rest) "")
      = (ls.map octets).flatMap (· ++ [lineFeed]) := by
  induction ls with
  | nil => rfl
  | cons line ls ih =>
    have hnewline : octets "\n" = [lineFeed] := by decide
    rw [List.foldr_cons, Utf8.octets_append, Utf8.octets_append, ih, hnewline]
    rfl

/-! ## Taking apart -/

/-- The text between `front` and `back`, if the bytes are those of such a line. -/
def unwrap? (front back : String) (line : List UInt8) : Option String := do
  let behind ← line.dropPrefix? (octets front)
  let text ← behind.dropSuffix? (octets back)
  Utf8.decode? ⟨text.toArray⟩

/-- What a file with a header was made of. -/
structure Parts where
  remark : String
  rules : List String
  /-- The bytes behind the header. -/
  content : ByteArray

/-- The parts of a file, given how many rules its header is for. -/
def takeApart? (count : Nat) (bytes : ByteArray) : Option Parts := do
  let first := cutLine bytes.data.toList
  let below := cutLines count first.2
  let remark ← unwrap? "// " "" first.1
  let rules ← below.1.mapM (unwrap? "/* eslint-disable " " */")
  return ⟨remark, rules, ⟨below.2.toArray⟩⟩

theorem unwrap?_append (front text back : String) :
    unwrap? front back (octets (front ++ text ++ back)) = some text := by
  have hfront : (octets (front ++ text ++ back)).dropPrefix? (octets front)
      = some (octets text ++ octets back) := by
    rw [List.dropPrefix?_eq_some_iff]
    exact ⟨octets front, by simp [Utf8.octets_append], by simp⟩
  have hback : (octets text ++ octets back).dropSuffix? (octets back) = some (octets text) := by
    rw [List.dropSuffix?_eq_some_iff]
    exact ⟨octets back, rfl, by simp⟩
  simp [unwrap?, hfront, hback, Utf8.decode?_octets]

theorem mapM_unwrap?_suppressions (ids : List String) :
    (ids.map fun rule => octets (suppression rule)).mapM (unwrap? "/* eslint-disable " " */")
      = some ids := by
  induction ids with
  | nil => rfl
  | cons rule ids ih =>
    rw [List.map_cons, List.mapM_cons, ih, suppression_eq, unwrap?_append]
    rfl

/-- The bytes of a file with a header. -/
theorem toList_build_append (remark : String) (rules : RuleSet) (content : ByteArray) :
    (Utf8.encode (build remark rules) ++ content).data.toList
      = octets ("// " ++ remark) ++ lineFeed ::
          ((rules.rules.map fun rule => octets (suppression rule)).flatMap (· ++ [lineFeed]) ++
            content.data.toList) := by
  have hheader : (Utf8.encode (build remark rules)).data.toList
      = ((lines remark rules).map octets).flatMap (· ++ [lineFeed]) := octets_lines _
  simp [hheader, lines, Function.comp_def]

theorem unwrap?_remark (remark : String) :
    unwrap? "// " "" (octets ("// " ++ remark)) = some remark := by
  simpa using unwrap?_append "// " remark ""

/-- The lines of a header come off one by one, and leave the content. -/
theorem cutLines_build (hremark : '\n' ∉ remark.toList)
    (hrules : ∀ rule ∈ rules.rules, '\n' ∉ rule.toList) (content : ByteArray) :
    ∃ rest, cutLine (Utf8.encode (build remark rules) ++ content).data.toList
        = (octets ("// " ++ remark), rest) ∧
      cutLines rules.size rest
        = (rules.rules.map (fun rule => octets (suppression rule)), content.data.toList) := by
  have hfirst : lineFeed ∉ octets ("// " ++ remark) := by
    rw [lineFeed_mem_octets_iff, String.toList_append]
    simpa using hremark
  have hbelow : ∀ line ∈ rules.rules.map (fun rule => octets (suppression rule)),
      lineFeed ∉ line := by
    rw [List.forall_mem_map]
    intro rule hrule
    rw [lineFeed_mem_octets_iff, newline_mem_suppression_iff]
    exact hrules rule hrule
  have hcut := cutLines_append hbelow content.data.toList
  rw [List.length_map] at hcut
  exact ⟨_, by rw [toList_build_append, cutLine_append hfirst], hcut⟩

/-- Taking a file apart undoes what putting a header in front of it does. -/
theorem takeApart?_build (hremark : '\n' ∉ remark.toList)
    (hrules : ∀ rule ∈ rules.rules, '\n' ∉ rule.toList) (content : ByteArray) :
    takeApart? rules.size (Utf8.encode (build remark rules) ++ content)
      = some ⟨remark, rules.rules, content⟩ := by
  obtain ⟨rest, hfirst, hbelow⟩ := cutLines_build hremark hrules content
  simp only [takeApart?, hfirst, hbelow, unwrap?_remark, mapM_unwrap?_suppressions]
  rfl

/-- There is one line for each rule and one more, and behind these is the content. -/
theorem dropLines_build (hremark : '\n' ∉ remark.toList)
    (hrules : ∀ rule ∈ rules.rules, '\n' ∉ rule.toList) (content : ByteArray) :
    dropLines (rules.size + 1) (Utf8.encode (build remark rules) ++ content) = content := by
  obtain ⟨rest, hfirst, hbelow⟩ := cutLines_build hremark hrules content
  simp only [dropLines, cutLines, hfirst, hbelow]

end Header

namespace Pipeline
open Header

variable {remark : String} {rules : RuleSet} {before after : ByteArray} {count : Nat}

/--
A file with the bytes `before` can get a header of the rules, so that `count` rules are reported
and the file has the bytes `after`.
-/
def Annotates (remark : String) (rules : RuleSet) (before after : ByteArray) (count : Nat) : Prop :=
  ∃ d d' p loc x, Disk.resolve d p = .ok loc ∧ d.entryAt? loc = some (.file before x) ∧
    (annotate ⟨remark, false⟩ d p rules).value = (d', .finished (.annotated count)) ∧
    d'.entryAt? loc = some (.file after x)

/-- A header that is reported is there, and is for as many rules as reported. -/
theorem Annotates.eq_build (h : Annotates remark rules before after count) :
    count = rules.size ∧ after = Utf8.encode (build remark rules) ++ before := by
  obtain ⟨d, d', p, loc, x, hloc, he, hrun, hafter⟩ := h
  obtain ⟨d'', hrun', he', -⟩ := annotate_of_file (a := ⟨remark, false⟩) rules hloc he
  obtain ⟨rfl, hend⟩ := Prod.mk.inj (hrun.symm.trans hrun')
  cases hr : rules.isEmpty with
  | true => simp [ending, hr] at hend
  | false =>
    cases ht : Utf8.decode? before with
    | none => simp [ending, hr, ht] at hend
    | some text =>
      rw [hafter] at he'
      simp [ending, hr, ht, bytesAfter] at hend he'
      exact ⟨hend, he'⟩

/--
Nothing is lost in a file that gets a header, if neither the configured text nor a rule has an LF.
The bytes written and the number of rules reported are those of one text, one sequence of rules and
one content only, and give them back: the content is what is left without as many lines as there
are rules, and one more.
-/
theorem annotate_lossless (hremark : '\n' ∉ remark.toList) (hne : rules.rules ≠ [])
    (hrules : ∀ rule ∈ rules.rules, '\n' ∉ rule.toList) (content : String)
    {d : Disk} {p : Path} {loc : Location} {x : Bool} (hloc : d.resolve p = .ok loc)
    (he : d.entryAt? loc = some (.file (Utf8.encode content) x)) :
    ∃ d' after,
      (annotate ⟨remark, false⟩ d p rules).value = (d', .finished (.annotated rules.size)) ∧
      d'.entryAt? loc = some (.file after x) ∧
      after = Utf8.encode (build remark rules) ++ Utf8.encode content ∧
      dropLines (rules.size + 1) after = Utf8.encode content ∧
      takeApart? rules.size after = some ⟨remark, rules.rules, Utf8.encode content⟩ ∧
      ∀ remark' rules' before', '\n' ∉ remark'.toList →
        (∀ rule ∈ rules'.rules, '\n' ∉ rule.toList) →
        Annotates remark' rules' before' after rules.size →
        remark' = remark ∧ rules' = rules ∧ before' = Utf8.encode content := by
  obtain ⟨d', hrun, hafter, -⟩ := annotate_of_file (a := ⟨remark, false⟩) rules hloc he
  have hr : rules.isEmpty = false := by simpa [RuleSet.isEmpty] using hne
  have ht := Utf8.decode?_encode content
  refine ⟨d', Utf8.encode (build remark rules) ++ Utf8.encode content, ?_, ?_, rfl,
    dropLines_build hremark hrules _, takeApart?_build hremark hrules _, ?_⟩
  · simpa [ending, hr, ht] using hrun
  · simpa [bytesAfter, hr, ht] using hafter
  · intro remark' rules' before' hremark' hrules' hother
    obtain ⟨hsize, hbytes⟩ := hother.eq_build
    have hparts := takeApart?_build hremark' hrules' before'
    rw [← hsize, ← hbytes, takeApart?_build hremark hrules] at hparts
    obtain ⟨rfl, hids, rfl⟩ := Parts.mk.inj (Option.some.inj hparts)
    exact ⟨rfl, RuleSet.ext hids.symm, rfl⟩

/-- A text that begins with a header, behind a byte order mark, and has no LF at its end. -/
def nestedContent : String := "\uFEFF// TODO\n/* eslint-disable semi */\r\nx = 1"

/-- Rules whose names end comments, under a text that looks like the line of a rule. -/
theorem annotate_lossless_nested :
    '\n' ∉ "/* eslint-disable semi */".toList ∧
      (RuleSet.ofList ["a */ b", "// c"]).rules ≠ [] ∧
      (∀ rule ∈ (RuleSet.ofList ["a */ b", "// c"]).rules, '\n' ∉ rule.toList) ∧
      (Disk.single nestedContent).resolve ⟨"/a.js"⟩ = .ok ["a.js"] ∧
      ∃ d' after,
        (annotate ⟨"/* eslint-disable semi */", false⟩ (.single nestedContent) ⟨"/a.js"⟩
          (RuleSet.ofList ["a */ b", "// c"])).value = (d', .finished (.annotated 2)) ∧
        d'.entryAt? ["a.js"] = some (.file after false) ∧
        dropLines 3 after = Utf8.encode nestedContent ∧
        takeApart? 2 after
          = some ⟨"/* eslint-disable semi */", ["a */ b", "// c"], Utf8.encode nestedContent⟩ := by
  have hremark : '\n' ∉ "/* eslint-disable semi */".toList := by decide
  have hrules : ∀ rule ∈ (RuleSet.ofList ["a */ b", "// c"]).rules, '\n' ∉ rule.toList := by
    decide
  have hloc := Disk.resolve_single nestedContent
  obtain ⟨d', after, hrun, hafter, -, hdrop, hparts, -⟩ :=
    annotate_lossless hremark (by decide) hrules nestedContent hloc rfl
  exact ⟨hremark, by decide, hrules, hloc, d', after, hrun, hafter, hdrop, hparts⟩

end Pipeline
end BulkSuppress
