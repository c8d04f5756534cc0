import Mathlib.Data.List.TakeWhile
import BulkSuppress.Header
import BulkSuppress.Proofs.Config.Accepted

/-
  The first line of a header as source code. It opens a line comment, which ends at the first line
  terminator: LF, CR, LINE SEPARATOR or PARAGRAPH SEPARATOR. The header has an LF behind the
  configured text, so that the comment ends there at the latest; it ends before if the text has a
  terminator of its own, and the rest of the text is code (`lineComment?_build`). Validation looks
  for the first two terminators only. So an accepted text stays in its comment exactly if it has
  neither of the other two (`comment_of_accepted`).
-/

namespace BulkSuppress

namespace Header

variable {a : Char} {remark : String}

/-- The characters that end a line of source code, and a line comment with it. -/
def isLineTerminator (a : Char) : Bool :=
  a == '\n' || a == '\r' || a == '\u2028' || a == '\u2029'

theorem isLineTerminator_iff :
    isLineTerminator a = true ↔ a = '\n' ∨ a = '\r' ∨ a = '\u2028' ∨ a = '\u2029' := by
  simp [isLineTerminator, or_assoc]

/--
The text of the line comment that source code starts with, and the code after it. The terminator
does not belong to the comment.
-/
def lineComment? : List Char → Option (List Char × List Char)
  | '/' :: '/' :: rest =>
    some (rest.takeWhile (!isLineTerminator ·), rest.dropWhile (!isLineTerminator ·))
  | _ => none

/-- The lines of a header after the first one. -/
def suppressions (rules : RuleSet) : String :=
  (rules.rules.map suppression).foldr (fun line rest => line ++ "\n" ++ rest) ""

theorem build_eq (remark : String) (rules : RuleSet) :
    build remark rules = "// " ++ remark ++ "\n" ++ suppressions rules := rfl

/-- What comes after a character that is not taken makes no difference. -/
theorem takeWhile_append_cons {α : Type} {p : α → Bool} {a : α} (h : p a = false)
    (xs ys : List α) :
    (xs ++ a :: ys).takeWhile p = xs.takeWhile p ∧
      (xs ++ a :: ys).dropWhile p = xs.dropWhile p ++ a :: ys := by
  induction xs with
  | nil => simp [h]
  | cons x xs ih => cases hx : p x <;> simp [hx, ih]

/-- The comment goes up to the first terminator of the configured text, or to its end. -/
theorem lineComment?_build (remark : String) (rules : RuleSet) (content : String) :
    lineComment? (build remark rules ++ content).toList
      = some (' ' :: remark.toList.takeWhile (!isLineTerminator ·),
          remark.toList.dropWhile (!isLineTerminator ·) ++
            '\n' :: (suppressions rules ++ content).toList) := by
  have htext : (build remark rules ++ content).toList
      = '/' :: '/' :: (' ' :: remark.toList ++ '\n' :: (suppressions rules ++ content).toList) := by
    simp [build_eq, String.toList_append]
  have hend : (!isLineTerminator '\n') = false := rfl
  obtain ⟨htake, hdrop⟩ := takeWhile_append_cons (p := (!isLineTerminator ·)) hend
    (' ' :: remark.toList) (suppressions rules ++ content).toList
  rw [htext, lineComment?, htake, hdrop]
  rfl

/-- The first line of the header is one comment exactly if the text has no terminator. -/
theorem lineComment?_build_iff (remark : String) (rules : RuleSet) (content : String) :
    lineComment? (build remark rules ++ content).toList
        = some (' ' :: remark.toList, '\n' :: (suppressions rules ++ content).toList) ↔
      ∀ a ∈ remark.toList, isLineTerminator a = false := by
  rw [lineComment?_build]
  constructor
  · intro h a ha
    have htake : remark.toList.takeWhile (!isLineTerminator ·) = remark.toList :=
      (List.cons.inj (Prod.mk.inj (Option.some.inj h)).1).2
    simpa using List.takeWhile_eq_self_iff.1 htake a ha
  · intro h
    have hall : ∀ a ∈ remark.toList, (!isLineTerminator a) = true := fun a ha => by simp [h a ha]
    rw [List.takeWhile_eq_self_iff.2 hall, List.dropWhile_eq_nil_iff.2 hall, List.nil_append]

end Header

namespace Config
open Header

/--
The text that an accepted configuration puts on the first line of a header has no LF and no CR,
and nothing else is asked of it. The line is one comment, whatever follows, exactly if the text
has no LINE SEPARATOR and no PARAGRAPH SEPARATOR either; otherwise the comment ends at the first
of these, and from there the text is code.
-/
theorem comment_of_accepted {draft : Draft} {wd : Except SystemError Path} {c : Config}
    (h : draft.build wd = .ok c) :
    (∀ text, (draft.set (.remark text)).build wd = .ok { c with remark := text } ↔
      '\n' ∉ text.toList ∧ '\r' ∉ text.toList) ∧
    (∀ a ∈ c.remark.toList, isLineTerminator a = true → a = '\u2028' ∨ a = '\u2029') ∧
    ∀ (rules : RuleSet) (content : String),
      (lineComment? (Header.build c.remark rules ++ content).toList
          = some (' ' :: c.remark.toList, '\n' :: (suppressions rules ++ content).toList) ↔
        '\u2028' ∉ c.remark.toList ∧ '\u2029' ∉ c.remark.toList) ∧
      lineComment? (Header.build c.remark rules ++ content).toList
        = some (' ' :: c.remark.toList.takeWhile (!isLineTerminator ·),
            c.remark.toList.dropWhile (!isLineTerminator ·) ++
              '\n' :: (suppressions rules ++ content).toList) := by
  obtain ⟨hlf, hcr⟩ := (isValid_of_build h).remark
  have hterminator : ∀ a ∈ c.remark.toList, isLineTerminator a = true →
      a = '\u2028' ∨ a = '\u2029' := by
    intro a ha hend
    rcases isLineTerminator_iff.1 hend with rfl | rfl | hother
    · exact absurd ha hlf
    · exact absurd ha hcr
    · exact hother
  refine ⟨build_set_remark h, hterminator,
    fun rules content => ⟨?_, lineComment?_build c.remark rules content⟩⟩
  rw [lineComment?_build_iff]
  constructor
  · exact fun hnone => ⟨fun hmem => Bool.false_ne_true (hnone _ hmem).symm,
      fun hmem => Bool.false_ne_true (hnone _ hmem).symm⟩
  · rintro ⟨hline, hparagraph⟩ a ha
    rw [← Bool.not_eq_true]
    intro hend
    rcases hterminator a ha hend with rfl | rfl
    · exact hline ha
    · exact hparagraph ha

/-! ## A text that ends its comment -/

/-- The sources, with the text for headers. -/
def remarked (text : String) : Draft :=
  { baseDir := ⟨"src"⟩, projectRoot := some ⟨"/"⟩, remark := some text }

/-- Code is put in front of a file by a text that was accepted. -/
theorem comment_is_left :
    ∃ c, (remarked "TODO\u2028alert(1)").build (.ok ⟨"/"⟩) = .ok c ∧
      c.remark = "TODO\u2028alert(1)" ∧
      lineComment? (Header.build c.remark (RuleSet.ofList ["semi"])).toList
        = some (" TODO".toList, "\u2028alert(1)\n/* eslint-disable semi */\n".toList) :=
  ⟨(remarked "TODO\u2028alert(1)").fill ⟨"/"⟩, by decide +kernel, rfl, by decide⟩

/-- With the default text, the first line is one comment. -/
theorem comment_of_accepted_default :
    (remarked defaultRemark).build (.ok ⟨"/"⟩) = .ok ((remarked defaultRemark).fill ⟨"/"⟩) ∧
      lineComment? (Header.build defaultRemark (RuleSet.ofList ["semi"]) ++ "x = 1\n").toList
        = some (' ' :: defaultRemark.toList,
            '\n' :: (suppressions (RuleSet.ofList ["semi"]) ++ "x = 1\n").toList) := by
  have h : (remarked defaultRemark).build (.ok ⟨"/"⟩)
      = .ok ((remarked defaultRemark).fill ⟨"/"⟩) := by decide +kernel
  exact ⟨h, ((comment_of_accepted h).2.2 _ _).1.2 (by decide)⟩

end Config
end BulkSuppress
