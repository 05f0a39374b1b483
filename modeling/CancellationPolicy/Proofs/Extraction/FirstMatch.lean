import CancellationPolicy.Proofs.Expression
import CancellationPolicy.Proofs.Extraction.Replay
import CancellationPolicy.Proofs.Record.FirstWrite
import CancellationPolicy.Proofs.Rule.Order

/-!
# The first match wins

Where no field that rules can fill lies above or below a path, the record that they build from a
text holds at this path the first value that is given for it: by the rule of the highest priority,
of several the first one given, its first occurrence that gives a value, and the first field of it
(`get?_applyAll`).

All values are written to one record, one after another, so that this is a case of
`Record.get?_writeAll`.  That lemma asks for values that are not empty, which holds of every value
of an expression, since a term without a value is passed over.
-/

namespace CancellationPolicy

namespace Rule

/-- What holds of the paths of all fields of enabled rules holds of those of all evidence. -/
theorem evidence_of_fields {rules : List Rule} {text : String} {P : String → Prop}
    (h : ∀ r ∈ rules, ∀ fields ∈ r.fields, ∀ f ∈ fields, P f.path) :
    ∀ e ∈ rules.flatMap (evidence text), e.2.isEmpty = false ∧ P e.1 := by
  intro e he
  obtain ⟨r, hr, he⟩ := List.mem_flatMap.1 he
  obtain ⟨fields, hfields, x, -, f, hf, hpath, hv⟩ := mem_evidence.1 he
  exact ⟨Expression.isEmpty_of_resolve? hv, hpath ▸ h r hr fields hfields f hf⟩

/-- Rules are applied by descending priority, those of one priority in the order in which they are
given, and the occurrences of each are taken from left to right.  At a valid path that lies neither
above nor below that of a field of an enabled rule, the record holds the first value given for it,
in the order of the rules, of the occurrences of each, and of its fields, coerced as by a write;
and it holds nothing there exactly if no occurrence gives a value for it. -/
theorem get?_applyAll (rules : List Rule) (text p : String) (hp : Path.isValid p = true)
    (hapart : ∀ r ∈ rules, ∀ fields ∈ r.fields, ∀ f ∈ fields, Path.Apart f.path p) :
    IsEvaluationOrder rules (inOrder rules) ∧
    (∀ r ∈ rules, ((r.pattern.occurrences text).map Occurrence.span).Pairwise
      fun s t => s.start < t.start ∧ s.stop ≤ t.start) ∧
    (applyAll rules text).record.get? p =
      (((inOrder rules).flatMap (evidence text)).find? (·.1 == p)).map
        (fun e => Record.coerce p e.2) ∧
    ((applyAll rules text).record.get? p = none ↔
      ∀ r ∈ rules, ∀ fields ∈ r.fields, ∀ x ∈ r.pattern.occurrences text, ∀ f ∈ fields,
        f.path = p → f.expression.resolve? x.captures = none) := by
  -- the rules in order are the same rules
  have hapart' : ∀ r ∈ inOrder rules, ∀ fields ∈ r.fields, ∀ f ∈ fields, Path.Apart f.path p :=
    fun r hr => hapart r (mem_inOrder.1 hr)
  -- no write is above or below the path, so the first one at it decides
  have hget : (applyAll rules text).record.get? p =
      (((inOrder rules).flatMap (evidence text)).find? (·.1 == p)).map
        (fun e => Record.coerce p e.2) := by
    rw [applyAll_eq]
    exact Record.get?_writeAll hp rfl (by simp [Outcome.empty, Record.new, Keyed.names])
      (evidence_of_fields (P := fun q => Path.Apart q p) hapart')
  refine ⟨isEvaluationOrder_inOrder rules,
    fun r _ => (r.pattern.spans_occurrencesFrom text 0).ordered, hget, ?_⟩
  rw [hget, Option.map_eq_none_iff, List.find?_eq_none]
  constructor
  · intro h r hr fields hfields x hx f hf hpath
    cases hv : f.expression.resolve? x.captures with
    | none => rfl
    | some v =>
      have he : (p, v) ∈ r.evidence text :=
        mem_evidence.2 ⟨fields, hfields, x, hx, f, hf, hpath, hv⟩
      have hne := h (p, v) (List.mem_flatMap.2 ⟨r, mem_inOrder.2 hr, he⟩)
      simp at hne
  · intro h e he heq
    obtain ⟨r, hr, he⟩ := List.mem_flatMap.1 he
    obtain ⟨fields, hfields, x, hx, f, hf, hpath, hv⟩ := mem_evidence.1 he
    have hnone := h r (mem_inOrder.1 hr) fields hfields x hx f hf (hpath.trans (beq_iff_eq.1 heq))
    rw [hnone] at hv
    cases hv

/-- Two rules for one field.  The second one has the higher priority, and the first of its two
expressions has no value. -/
def rivals : List Rule := [
  { id := "fee", priority := 1, source := "FEE", pattern := .text "FEE".toList
    fields := some [⟨"fee.type", ⟨["fixed_amount"]⟩⟩] },
  { id := "fee_applies", priority := 2, source := "FEE A", pattern := .text "FEE A".toList
    fields := some [⟨"fee.type", ⟨["$missing"]⟩⟩, ⟨"fee.type", ⟨["percentage"]⟩⟩] }]

theorem get?_applyAll_rivals :
    Path.isValid "fee.type" = true ∧
    (∀ r ∈ rivals, ∀ fields ∈ r.fields, ∀ f ∈ fields, Path.Apart f.path "fee.type") ∧
    (applyAll rivals "NO FEE APPLIES").record.get? "fee.type" = some (.text "percentage") := by
  have hvalid : Path.isValid "fee.type" = true := by decide
  have hapart : ∀ r ∈ rivals, ∀ fields ∈ r.fields, ∀ f ∈ fields, Path.Apart f.path "fee.type" := by
    decide
  refine ⟨hvalid, hapart, ?_⟩
  rw [(get?_applyAll rivals "NO FEE APPLIES" "fee.type" hvalid hapart).2.2.1]
  decide +kernel

end Rule

end CancellationPolicy
