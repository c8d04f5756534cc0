import Mathlib.Data.Finset.Card
import BulkSuppress.Proofs.Header.Suppression

/-
  Rule sets by their histories. A set is collected from rules and is then given more of them, one by
  one or many at a time. What it holds is told by all that it was given, as one list: each rule
  once, where the list has it first (`Holds`). One insertion keeps this (`Holds.insert`), and from
  there any sequence of calls does (`holds_served`).

  Sets are the same rules in whatever order (`sameRules_iff`), where headers also tell the order.
-/

namespace BulkSuppress.RuleSet

variable {s t : RuleSet} {given given' rules : List String} {rule : String}

/-! ## Calls -/

/-- A call that makes a set or gives rules to it. -/
inductive Call where
  /-- Begin anew, with a set of the rules. -/
  | collect (rules : List String)
  | insert (rule : String)
  | extend (rules : List String)
deriving DecidableEq, Repr

namespace Call

/-- The set after a call. -/
def serve (s : RuleSet) : Call → RuleSet
  | .collect rules => ofList rules
  | .insert rule => (s.insertNew rule).2
  | .extend rules => s.extend rules

/-- What the set of a call was given, if it was given `before` up to then. -/
def extendGiven (before : List String) : Call → List String
  | .collect rules => rules
  | .insert rule => before ++ [rule]
  | .extend rules => before ++ rules

end Call

/-- The set after calls, one after the other. -/
def served (calls : List Call) : RuleSet := calls.foldl Call.serve empty

/-- What the set after calls was given, in order. -/
def allGiven (calls : List Call) : List String := calls.foldl Call.extendGiven []

/-! ## What a set holds -/

/-- The rules are those given, each once, in the order in which they are first given. -/
structure Holds (given rules : List String) : Prop where
  nodup : rules.Nodup
  mem_iff : ∀ rule, rule ∈ rules ↔ rule ∈ given
  ordered : rules.Pairwise fun a b => given.idxOf a < given.idxOf b

theorem holds_nil : Holds [] [] where
  nodup := .nil
  mem_iff _ := .rfl
  ordered := .nil

/-- Places in what was given stay the same when more is given. -/
theorem Holds.ordered_append (h : Holds given rules) (more : List String) :
    rules.Pairwise fun a b => (given ++ more).idxOf a < (given ++ more).idxOf b := by
  refine h.ordered.imp_of_mem fun ha hb hlt => ?_
  rwa [List.idxOf_append_of_mem ((h.mem_iff _).1 ha), List.idxOf_append_of_mem ((h.mem_iff _).1 hb)]

theorem Holds.insert (h : Holds given s.rules) (rule : String) :
    Holds (given ++ [rule]) (s.insert rule).rules where
  nodup := (s.insert rule).nodup
  mem_iff r := by rw [mem_insert, h.mem_iff, List.mem_append, List.mem_singleton]
  ordered := by
    rw [rules_insert]
    split
    · exact h.ordered_append [rule]
    · rename_i hnew
      refine List.pairwise_append.2 ⟨h.ordered_append [rule], List.pairwise_singleton _ _, ?_⟩
      -- a new rule is given behind all others
      intro a ha b hb
      rw [List.mem_singleton] at hb
      subst hb
      have hfirst : a ∈ given := (h.mem_iff a).1 ha
      rw [List.idxOf_append_of_mem hfirst, List.idxOf_append_of_notMem (mt (h.mem_iff b).2 hnew)]
      exact Nat.lt_add_right _ (List.idxOf_lt_length_of_mem hfirst)

theorem Holds.extend (h : Holds given s.rules) (rules : List String) :
    Holds (given ++ rules) (s.extend rules).rules := by
  induction rules generalizing s given with
  | nil => rwa [extend_nil, List.append_nil]
  | cons rule rules ih =>
    have hrest := ih (h.insert rule)
    rwa [List.append_assoc, List.singleton_append] at hrest

theorem Holds.serve (h : Holds given s.rules) (call : Call) :
    Holds (call.extendGiven given) (call.serve s).rules := by
  cases call with
  | collect rules => exact Holds.extend (s := empty) holds_nil rules
  | insert rule => exact h.insert rule
  | extend rules => exact h.extend rules

theorem holds_served (calls : List Call) : Holds (allGiven calls) (served calls).rules := by
  suffices h : ∀ {given : List String} {s : RuleSet}, Holds given s.rules →
      Holds (calls.foldl Call.extendGiven given) (calls.foldl Call.serve s).rules from
    h (s := empty) holds_nil
  induction calls with
  | nil => exact id
  | cons call calls ih => exact fun h => ih (h.serve call)

/-- There are as many rules as different ones were given. -/
theorem Holds.length_eq (h : Holds given rules) : rules.length = given.toFinset.card := by
  rw [← List.toFinset_card_of_nodup h.nodup]
  exact congrArg _ (Finset.ext fun r => by simp [h.mem_iff])

/-! ## Extending and comparing -/

/-- Rules that are there already change nothing. -/
theorem extend_of_subset (h : ∀ rule ∈ rules, rule ∈ s.rules) : s.extend rules = s := by
  induction rules with
  | nil => rfl
  | cons rule rules ih =>
    rw [List.forall_mem_cons] at h
    rw [extend_cons, insert_of_mem h.1, ih h.2]

theorem contains_iff : s.contains rule = true ↔ rule ∈ s.rules := List.contains_iff_mem

/-- Of two sets of one size, one is part of the other only if it is all of it. -/
theorem sameRules_iff : s.sameRules t = true ↔ ∀ rule, rule ∈ s.rules ↔ rule ∈ t.rules := by
  rw [sameRules, Bool.and_eq_true, beq_iff_eq, List.all_eq_true]
  constructor
  · rintro ⟨hsize, hsub⟩ rule
    have hperm : s.rules.Perm t.rules :=
      (s.nodup.subperm fun r hr => contains_iff.1 (hsub r hr)).perm_of_length_le hsize.ge
    exact hperm.mem_iff
  · intro h
    have hperm : s.rules.Perm t.rules := (List.perm_ext_iff_of_nodup s.nodup t.nodup).2 h
    exact ⟨hperm.length_eq, fun r hr => contains_iff.2 ((h r).1 hr)⟩

/--
After any calls, a set holds each rule that it was given once, in the order in which they were first
given; all that can be asked of it follows from that list. Two sets are equal if they were given
the same rules, in whatever order. Their headers are equal only if they also go through them in the
same order, as long as no rule has an LF.
-/
theorem history_decides (calls : List Call) :
    Holds (allGiven calls) (served calls).rules ∧
      (served calls).size = (allGiven calls).toFinset.card ∧
      (∀ rule, (served calls).contains rule = true ↔ rule ∈ allGiven calls) ∧
      (∀ rule, (served calls).insertNew rule
        = (decide (rule ∉ allGiven calls), served (calls ++ [.insert rule]))) ∧
      (∀ xs ys, (served calls).extend (xs ++ ys) = ((served calls).extend xs).extend ys) ∧
      (∀ xs, (∀ rule ∈ xs, rule ∈ allGiven calls) → (served calls).extend xs = served calls) ∧
      ∀ calls',
        ((served calls).sameRules (served calls') = true ↔
          ∀ rule, rule ∈ allGiven calls ↔ rule ∈ allGiven calls') ∧
        ((∀ rule ∈ allGiven calls ++ allGiven calls', '\n' ∉ rule.toList) → ∀ remark,
          (Header.build remark (served calls) = Header.build remark (served calls') ↔
            (served calls).rules = (served calls').rules)) := by
  have h := holds_served calls
  refine ⟨h, h.length_eq, fun rule => contains_iff.trans (h.mem_iff rule), fun rule => ?_,
    extend_append _, fun xs hxs => extend_of_subset fun r hr => (h.mem_iff r).2 (hxs r hr),
    fun calls' => ?_⟩
  · have hnew : (!(served calls).contains rule) = decide (rule ∉ allGiven calls) := by
      rw [Bool.eq_iff_iff, Bool.not_eq_true', decide_eq_true_eq, ← h.mem_iff, ← contains_iff,
        Bool.not_eq_true]
    rw [insertNew, hnew, served, served, List.foldl_append]
    rfl
  · have h' := holds_served calls'
    refine ⟨?_, fun hlines remark => ?_⟩
    · simp only [sameRules_iff, h.mem_iff, h'.mem_iff]
    · rw [List.forall_mem_append] at hlines
      exact Header.build_inj (fun r hr => hlines.1 r ((h.mem_iff r).1 hr))
        fun r hr => hlines.2 r ((h'.mem_iff r).1 hr)

/-- Calls that name rules more than once. -/
def stepwise : List Call := [.collect ["semi", "no-var", "semi"], .insert "eqeqeq", .insert "semi"]

/-- Calls that name the same rules in another order, behind a set that is given up. -/
def anew : List Call := [.collect ["quotes"], .collect [], .extend ["eqeqeq", "no-var", "semi"]]

/-- Two sets of the same rules whose headers differ. -/
theorem history_decides_stepwise :
    (∀ rule ∈ ["eqeqeq", "semi"], rule ∈ allGiven stepwise) ∧
      (∀ rule ∈ allGiven stepwise ++ allGiven anew, '\n' ∉ rule.toList) ∧
      (served stepwise).size = 3 ∧ (served stepwise).contains "quotes" = false ∧
      ((served stepwise).insertNew "semi").1 = false ∧
      (served stepwise).extend ["eqeqeq", "semi"] = served stepwise ∧
      (served stepwise).sameRules (served anew) = true ∧
      Header.build "TODO" (served stepwise) ≠ Header.build "TODO" (served anew) := by
  have hpresent : ∀ rule ∈ ["eqeqeq", "semi"], rule ∈ allGiven stepwise := by decide
  have hlines : ∀ rule ∈ allGiven stepwise ++ allGiven anew, '\n' ∉ rule.toList := by
    decide
  obtain ⟨-, hsize, hcontains, hinsert, -, hextend, hother⟩ := history_decides stepwise
  obtain ⟨hsame, hheader⟩ := hother anew
  refine ⟨hpresent, hlines, hsize.trans (by decide), ?_, ?_, hextend _ hpresent,
    hsame.2 (by simp [allGiven, stepwise, anew, Call.extendGiven]; tauto), fun heq => ?_⟩
  · exact Bool.eq_false_iff.2 (mt (hcontains "quotes").1 (by decide))
  · rw [hinsert]
    decide
  · exact absurd ((hheader hlines "TODO").1 heq) (by decide)

end BulkSuppress.RuleSet
