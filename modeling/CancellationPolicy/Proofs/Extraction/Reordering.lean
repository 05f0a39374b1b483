import CancellationPolicy.Extraction.Outcome
import CancellationPolicy.Proofs.Rule.Order

/-!
# Only priorities and ties decide the order

Rules may be given in any order as long as those of one priority keep theirs
(`Rule.IsReordering`): the order in which they are applied is the same, and with it the outcome
(`Rule.applyAll_reordered`).  Rules of pairwise different priorities may be given in any order at
all.  The rules of a set are in the order in which they are applied, and to put them in order once
more changes nothing.
-/

namespace CancellationPolicy

namespace Rule

variable {rules others : List Rule}

/-- Whether a list holds the same rules as another, those of one priority in the same order. -/
structure IsReordering (rules others : List Rule) : Prop where
  /-- The rules are the same. -/
  perm : others.Perm rules
  /-- Rules of the same priority keep their order. -/
  stable : ∀ k, others.filter (·.priority = k) = rules.filter (·.priority = k)

theorem IsReordering.inOrder_eq (h : IsReordering rules others) :
    inOrder others = inOrder rules := by
  have hothers := isEvaluationOrder_inOrder others
  have horder : IsEvaluationOrder rules (inOrder others) :=
    { perm := hothers.perm.trans h.perm
      descending := hothers.descending
      stable := fun k => (hothers.stable k).trans (h.stable k) }
  exact horder.eq_inOrder

theorem isReordering_inOrder (rules : List Rule) : IsReordering rules (inOrder rules) where
  perm := (isEvaluationOrder_inOrder rules).perm
  stable := (isEvaluationOrder_inOrder rules).stable

/-- Of rules with pairwise different priorities, at most one has a given priority. -/
theorem length_filter_priority_le_one (h : rules.Pairwise fun r s => r.priority ≠ s.priority)
    (k : Int) : (rules.filter (·.priority = k)).length ≤ 1 := by
  have hpairwise := h.filter (·.priority = k)
  have hpriority : ∀ r ∈ rules.filter (·.priority = k), r.priority = k := fun r hr =>
    of_decide_eq_true (List.mem_filter.1 hr).2
  cases hfilter : rules.filter (·.priority = k) with
  | nil => exact Nat.zero_le _
  | cons r rest =>
    cases rest with
    | nil => exact Nat.le_refl _
    | cons s rest =>
      rw [hfilter] at hpairwise hpriority
      have hne := List.rel_of_pairwise_cons hpairwise List.mem_cons_self
      exact absurd ((hpriority r (by simp)).trans (hpriority s (by simp)).symm) hne

theorem isReordering_of_pairwise (h : rules.Pairwise fun r s => r.priority ≠ s.priority)
    (hperm : others.Perm rules) : IsReordering rules others := by
  refine ⟨hperm, fun k => ?_⟩
  have hk := hperm.filter (·.priority = k)
  -- a list of at most one entry has no other order
  rcases Nat.le_one_iff_eq_zero_or_eq_one.1 (length_filter_priority_le_one h k) with h0 | h1
  · rw [List.length_eq_zero_iff.1 h0] at hk ⊢
    exact hk.eq_nil
  · obtain ⟨r, hr⟩ := List.length_eq_one_iff.1 h1
    rw [hr] at hk ⊢
    exact List.perm_singleton.1 hk

theorem IsReordering.applyAll_eq (h : IsReordering rules others) (text : String) :
    applyAll others text = applyAll rules text := by
  rw [applyAll, h.inOrder_eq, applyAll]

end Rule

theorem RuleSet.rules_of_ofRules {rules : List Rule} {set : RuleSet}
    (h : ofRules rules = .ok set) : set.rules = Rule.inOrder rules := by
  unfold ofRules at h
  split at h
  · cases h
  · cases h
    rfl

namespace Rule

/-- The outcome is the same for all orders in which rules are given that keep the order of the rules
of one priority, and for all orders whatever if the priorities are pairwise different.  A set of the
rules, if they make one, has the same outcome as the rules. -/
theorem applyAll_reordered (rules : List Rule) (text : String) :
    (∀ others, IsReordering rules others → applyAll others text = applyAll rules text) ∧
    (rules.Pairwise (fun r s => r.priority ≠ s.priority) →
      ∀ others : List Rule, others.Perm rules → applyAll others text = applyAll rules text) ∧
    (∀ set, RuleSet.ofRules rules = .ok set →
      applyAll set.rules text = applyAll rules text) := by
  refine ⟨fun others h => h.applyAll_eq text, fun h others hperm => ?_, fun set hset => ?_⟩
  · exact (isReordering_of_pairwise h hperm).applyAll_eq text
  · rw [RuleSet.rules_of_ofRules hset]
    exact (isReordering_inOrder rules).applyAll_eq text

/-- A rule that finds a letter and fills a field with a value. -/
def letterRule (id : String) (priority : Int) (letter : Char) (value : String) : Rule :=
  { id, priority, source := String.singleton letter, pattern := .text [letter]
    fields := some [⟨"fee.type", ⟨[value]⟩⟩] }

/-- Two rules of one priority keep their order around one of a higher priority. -/
theorem applyAll_reordered_letterRule :
    let a := letterRule "a" 1 'A' "FIRST"
    let b := letterRule "b" 1 'B' "SECOND"
    let c := letterRule "c" 2 'C' "THIRD"
    IsReordering [a, b, c] [a, c, b] ∧
    applyAll [a, c, b] "ABC" = applyAll [a, b, c] "ABC" ∧
    applyAll [c, a] "AC" = applyAll [a, c] "AC" ∧
    RuleSet.ofRules [a, b, c] = .ok ⟨"unversioned", [c, a, b]⟩ ∧
    applyAll [c, a, b] "ABC" = applyAll [a, b, c] "ABC" := by
  intro a b c
  have hreordering : IsReordering [a, b, c] [a, c, b] := by
    refine ⟨(List.Perm.swap b c []).cons a, fun k => ?_⟩
    by_cases h1 : (1 : Int) = k
    · subst h1
      decide
    · by_cases h2 : (2 : Int) = k
      · subst h2
        decide
      · simp [a, b, c, letterRule, h1, h2]
  have hpairwise : [a, c].Pairwise fun r s => r.priority ≠ s.priority := by decide
  have hset : RuleSet.ofRules [a, b, c] = .ok ⟨"unversioned", [c, a, b]⟩ := by rfl
  exact ⟨hreordering, (applyAll_reordered [a, b, c] "ABC").1 _ hreordering,
    (applyAll_reordered [a, c] "AC").2.1 hpairwise [c, a] (.swap a c []), hset,
    (applyAll_reordered [a, b, c] "ABC").2.2 _ hset⟩

end Rule

end CancellationPolicy
