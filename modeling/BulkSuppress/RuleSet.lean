/-
  Rule sets: the rules that a file violates, each once, in the order in which they were first
  reported. `rules_insert` and `mem_insert` say what an insertion does, `extend_append` that
  extending goes one part after the other, and `rules_ofList` what is left of a list of reports.
-/

namespace BulkSuppress

/-- Distinct rule names in the order of their first report. -/
structure RuleSet where
  rules : List String := []
  nodup : rules.Nodup := by exact List.nodup_nil

namespace RuleSet

@[ext] theorem ext {s t : RuleSet} (h : s.rules = t.rules) : s = t := by
  cases s; cases t; cases h; rfl

instance : DecidableEq RuleSet := fun s t =>
  if h : s.rules = t.rules then isTrue (ext h) else isFalse fun e => h (e ▸ rfl)

/-- No rules. -/
def empty : RuleSet := {}

instance : Inhabited RuleSet := ⟨empty⟩

/-- The set holds the rule. -/
def contains (s : RuleSet) (rule : String) : Bool :=
  s.rules.contains rule

/-- The set with the rule, at its end if it is new. -/
def insert (s : RuleSet) (rule : String) : RuleSet :=
  if h : rule ∈ s.rules then s
  else ⟨s.rules ++ [rule], by
    rw [List.nodup_append]
    exact ⟨s.nodup, by simp, fun a ha b hb => by
      rw [List.mem_singleton] at hb; exact fun e => h (hb ▸ e ▸ ha)⟩⟩

/-- Whether the rule is new to the set, and the set with it. -/
def insertNew (s : RuleSet) (rule : String) : Bool × RuleSet :=
  (!s.contains rule, s.insert rule)

/-- The set with all the rules, in order. -/
def extend (s : RuleSet) (rules : List String) : RuleSet :=
  rules.foldl insert s

/-- The set of the rules. -/
def ofList (rules : List String) : RuleSet :=
  empty.extend rules

/-- The number of rules. -/
def size (s : RuleSet) : Nat := s.rules.length

/-- There are no rules. -/
def isEmpty (s : RuleSet) : Bool := s.rules.isEmpty

/-- The two sets hold the same rules, in whatever order. -/
def sameRules (s t : RuleSet) : Bool :=
  s.size == t.size && s.rules.all t.contains

theorem rules_insert (s : RuleSet) (rule : String) :
    (s.insert rule).rules = if rule ∈ s.rules then s.rules else s.rules ++ [rule] := by
  unfold insert; split <;> simp [*]

theorem mem_insert {s : RuleSet} {rule r : String} :
    r ∈ (s.insert rule).rules ↔ r ∈ s.rules ∨ r = rule := by
  rw [rules_insert]
  split
  · exact ⟨Or.inl, fun h => h.elim id fun e => e ▸ ‹_›⟩
  · simp

theorem insert_of_mem {s : RuleSet} {rule : String} (h : rule ∈ s.rules) : s.insert rule = s := by
  simp [insert, h]

@[simp] theorem extend_nil (s : RuleSet) : s.extend [] = s := rfl

@[simp] theorem extend_cons (s : RuleSet) (r : String) (rs : List String) :
    s.extend (r :: rs) = (s.insert r).extend rs := rfl

/-- Extending by two lists is extending by one after the other. -/
theorem extend_append (s : RuleSet) (xs ys : List String) :
    s.extend (xs ++ ys) = (s.extend xs).extend ys :=
  List.foldl_append

/-- Extending adds the rules that are new, each at its first mention. -/
theorem rules_extend (s : RuleSet) (rules : List String) :
    (s.extend rules).rules
      = s.rules ++ (rules.filter fun r => !s.rules.contains r).eraseDups := by
  induction rules generalizing s with
  | nil => simp
  | cons r rules ih =>
    rw [extend_cons, ih, rules_insert]
    by_cases h : r ∈ s.rules
    · rw [if_pos h, List.filter_cons_of_neg (by simp [h])]
    · have hnew (x : String) : (!(s.rules ++ [r]).contains x)
          = ((!x == r) && !s.rules.contains x) := by
        rw [Bool.eq_iff_iff]
        simp [and_comm]
      rw [if_neg h, List.filter_cons_of_pos (by simp [h]), List.eraseDups_cons, List.filter_filter,
        List.append_assoc, List.singleton_append, funext hnew]

theorem rules_ofList (rules : List String) : (ofList rules).rules = rules.eraseDups := by
  have hnew : (rules.filter fun r => !empty.rules.contains r) = rules :=
    List.filter_eq_self.2 fun _ _ => rfl
  rw [ofList, rules_extend, hnew]
  rfl

end RuleSet
end BulkSuppress
