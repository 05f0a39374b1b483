import CancellationPolicy.Proofs.Sorting
import CancellationPolicy.Rule.Basic

/-!
# The order in which rules are applied

`Rule.inOrder` lists rules by descending priority, rules of the same priority in the order in which
they are given (`isEvaluationOrder_inOrder`).  There is only one such list
(`IsEvaluationOrder.eq_inOrder`), so leaving out rules of one kind before or after they are put in
order makes no difference (`inOrder_filter`).  Rules of lower priority that are added at the end are
applied after all others (`inOrder_append`).
-/

namespace CancellationPolicy.Rule

variable {rules more : List Rule}

/-- Whether a list holds the same rules as another by descending priority, those of one priority in
the same order. -/
structure IsEvaluationOrder (rules ordered : List Rule) : Prop where
  /-- The rules are the same. -/
  perm : ordered.Perm rules
  /-- Priorities do not increase. -/
  descending : ordered.Pairwise fun r s => s.priority ≤ r.priority
  /-- Rules of the same priority keep their order. -/
  stable : ∀ k, ordered.filter (·.priority = k) = rules.filter (·.priority = k)

theorem isEvaluationOrder_inOrder (rules : List Rule) :
    IsEvaluationOrder rules (inOrder rules) where
  perm := stableSort_perm _ rules
  descending := pairwise_stableSort_decide (r := fun r s : Rule => s.priority ≤ r.priority)
    (fun r s => Int.le_total s.priority r.priority) (fun _ _ _ h h' => Int.le_trans h' h) rules
  stable k := by
    refine filter_stableSort ?_ rules
    intro r s hr hs
    simp only [decide_eq_true_eq] at hr hs ⊢
    omega

theorem mem_inOrder {r : Rule} : r ∈ inOrder rules ↔ r ∈ rules := mem_stableSort _

/-! ### There is one order -/

theorem mem_iff_of_filter_priority {xs ys : List Rule} {r : Rule}
    (h : ∀ k, xs.filter (·.priority = k) = ys.filter (·.priority = k)) : r ∈ xs ↔ r ∈ ys := by
  have hr := congrArg (r ∈ ·) (h r.priority)
  simpa [List.mem_filter] using hr

theorem priority_le_of_mem_cons {x y : Rule} {xs : List Rule}
    (h : (x :: xs).Pairwise fun r s => s.priority ≤ r.priority) (hy : y ∈ x :: xs) :
    y.priority ≤ x.priority := by
  rcases List.mem_cons.1 hy with rfl | hmem
  · exact Int.le_refl _
  · exact List.rel_of_pairwise_cons h hmem

/-- Rules by descending priority are determined by those of each priority. -/
theorem eq_of_filter_priority {xs ys : List Rule}
    (hx : xs.Pairwise fun r s => s.priority ≤ r.priority)
    (hy : ys.Pairwise fun r s => s.priority ≤ r.priority)
    (h : ∀ k, xs.filter (·.priority = k) = ys.filter (·.priority = k)) : xs = ys := by
  induction xs generalizing ys with
  | nil =>
    cases ys with
    | nil => rfl
    | cons y ys =>
      exact absurd ((mem_iff_of_filter_priority h).2 List.mem_cons_self) List.not_mem_nil
  | cons x xs ih =>
    cases ys with
    | nil => exact absurd ((mem_iff_of_filter_priority h).1 List.mem_cons_self) List.not_mem_nil
    | cons y ys =>
      have hle : y.priority ≤ x.priority :=
        priority_le_of_mem_cons hx ((mem_iff_of_filter_priority h).2 List.mem_cons_self)
      have hge : x.priority ≤ y.priority :=
        priority_le_of_mem_cons hy ((mem_iff_of_filter_priority h).1 List.mem_cons_self)
      -- both lists start with a rule of the highest priority, and there is one first rule of it
      have hpriority : x.priority = y.priority := Int.le_antisymm hge hle
      have hfirst := h y.priority
      rw [List.filter_cons_of_pos (by simpa using hpriority), List.filter_cons_of_pos (by simp)]
        at hfirst
      obtain ⟨rfl, -⟩ := List.cons.inj hfirst
      have hrest (k : Int) : xs.filter (·.priority = k) = ys.filter (·.priority = k) := by
        have hk := h k
        rw [List.filter_cons, List.filter_cons] at hk
        split at hk
        · exact (List.cons.inj hk).2
        · exact hk
      rw [ih hx.of_cons hy.of_cons hrest]

/-- There is one evaluation order. -/
theorem IsEvaluationOrder.eq_inOrder {ordered : List Rule} (h : IsEvaluationOrder rules ordered) :
    ordered = inOrder rules := by
  have hrules := isEvaluationOrder_inOrder rules
  refine eq_of_filter_priority h.descending hrules.descending fun k => ?_
  rw [h.stable k, hrules.stable k]

/-- Rules that are in order stay. -/
theorem inOrder_of_pairwise (h : rules.Pairwise fun r s => s.priority ≤ r.priority) :
    inOrder rules = rules :=
  (IsEvaluationOrder.eq_inOrder ⟨.refl _, h, fun _ => rfl⟩).symm

/-- Rules that are left out do not change the order of the others. -/
theorem inOrder_filter (p : Rule → Bool) (rules : List Rule) :
    inOrder (rules.filter p) = (inOrder rules).filter p := by
  have hrules := isEvaluationOrder_inOrder rules
  have hfilter : IsEvaluationOrder (rules.filter p) ((inOrder rules).filter p) := by
    refine ⟨hrules.perm.filter p, hrules.descending.filter p, fun k => ?_⟩
    have hcomm (xs : List Rule) :
        (xs.filter p).filter (·.priority = k) = (xs.filter (·.priority = k)).filter p := by
      simp only [List.filter_filter, Bool.and_comm]
    rw [hcomm, hrules.stable k, hcomm]
  exact hfilter.eq_inOrder.symm

/-! ### Further rules -/

/-- Rules of lower priority come behind all others. -/
theorem inOrder_append (h : ∀ r ∈ rules, ∀ s ∈ more, s.priority ≤ r.priority) :
    inOrder (rules ++ more) = inOrder rules ++ inOrder more :=
  stableSort_append fun r hr s hs => decide_eq_true (h r hr s hs)

end CancellationPolicy.Rule
