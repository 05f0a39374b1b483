import CancellationPolicy.Proofs.Extraction.Leaves
import CancellationPolicy.Proofs.Summary

/-!
# Complete records

A rule that fills the type of a fee may leave it to others to say how much the fee is.  Where each
such rule always fills the fields for the amount of a fee of its type (`Rule.completesFee`), and
each rule for the date of a deadline always fills the hour and the minute
(`Rule.completesDeadline`), the record is complete, whichever rule is the first to fill which of
these fields (`Rule.isComplete_applyAll`).
-/

namespace CancellationPolicy.Rule

open Expression

variable {rules : List Rule} {r : Rule} {text : String} {v : Value}

/-- Whether the rule only fills in types of fees for which it fills in the amounts, too. -/
def completesFee (r : Rule) : Bool :=
  (r.fields.getD []).all fun f => f.path != "fee.type" ||
    match f.expression.terms with
    | [term] =>
      match termValue? [] term with
      | some (.text type) => (FeeType.amounts? type).any fun ps => ps.all r.alwaysFills
      | _ => false
    | _ => false

/-- Whether the rule only fills in dates of deadlines for which it fills in the times, too. -/
def completesDeadline (r : Rule) : Bool :=
  (r.fields.getD []).all fun f => f.path != "deadline.date_ddmmmyy" ||
    (r.alwaysFills "deadline.local_hour" && r.alwaysFills "deadline.local_minute")

/-- A type of a fee that a rule gives is fixed, and the rule always fills its amounts. -/
theorem exists_amounts_of_completesFee (h : r.completesFee = true)
    (he : ("fee.type", v) ∈ r.evidence text) :
    ∃ type amounts, v = .text type ∧ FeeType.amounts? type = some amounts ∧
      ∀ p ∈ amounts, r.alwaysFills p = true := by
  obtain ⟨fields, hfields, x, -, f, hf, hpath, hv⟩ := mem_evidence.1 he
  rw [completesFee, hfields] at h
  have hcheck := List.all_eq_true.1 h f hf
  rw [hpath, bne_self_eq_false, Bool.false_or] at hcheck
  obtain ⟨term, hterm, hvalue⟩ := exists_term_of_resolve? hv
  split at hcheck
  -- the type is one literal term, so it is known without a text
  · rename_i t hterms
    obtain rfl : term = t := List.mem_singleton.1 (hterms ▸ hterm)
    split at hcheck
    · rename_i type htype
      obtain rfl : v = .text type := Option.some.inj (hvalue.symm.trans (termValue?_of_nil htype))
      obtain ⟨amounts, hamounts, hall⟩ := (Option.any_eq_true _ _).1 hcheck
      exact ⟨type, amounts, rfl, hamounts, List.all_eq_true.1 hall⟩
    · cases hcheck
  · cases hcheck

theorem alwaysFills_of_completesDeadline (h : r.completesDeadline = true)
    (he : ("deadline.date_ddmmmyy", v) ∈ r.evidence text) :
    r.alwaysFills "deadline.local_hour" = true ∧ r.alwaysFills "deadline.local_minute" = true := by
  obtain ⟨fields, hfields, x, -, f, hf, hpath, -⟩ := mem_evidence.1 he
  rw [completesDeadline, hfields] at h
  have hcheck := List.all_eq_true.1 h f hf
  rw [hpath, bne_self_eq_false, Bool.false_or] at hcheck
  exact Bool.and_eq_true_iff.1 hcheck

/-- What is present is evidence of a rule. -/
theorem exists_evidence_of_isPresent {p : String}
    (h : (applyAll rules text).record.isPresent p = true) :
    ∃ r ∈ rules, ∃ w, (p, w) ∈ r.evidence text := by
  rw [Record.isPresent] at h
  split at h
  · rename_i v hv
    obtain ⟨r, hr, w, hw, -⟩ := exists_evidence_of_get? hv
    exact ⟨r, hr, w, hw⟩
  · cases h

/-- The type of a fee in the record comes with the amounts of that type. -/
theorem exists_amounts_of_get? (hleaves : Path.areLeaves (rules.flatMap paths) = true)
    (hfee : ∀ r ∈ rules, r.completesFee = true)
    (h : (applyAll rules text).record.get? "fee.type" = some v) :
    ∃ type amounts, v = .text type ∧ FeeType.amounts? type = some amounts ∧
      ∀ p ∈ amounts, (applyAll rules text).record.isPresent p = true := by
  obtain ⟨r, hr, w, hw, rfl⟩ := exists_evidence_of_get? h
  obtain ⟨type, amounts, rfl, hamounts, hfills⟩ :=
    exists_amounts_of_completesFee (hfee r hr) hw
  have hcoerce : Record.coerce "fee.type" (.text type) = .text type := by
    refine Record.coerce_eq_text.2 ⟨rfl, fun hcount => ?_⟩
    exact absurd hcount (by decide)
  exact ⟨type, amounts, hcoerce, hamounts, fun p hp =>
    isPresent_of_alwaysFills hleaves hr hw (hfills p hp)⟩

/-- Of rules that complete what they begin, the record is complete. -/
theorem isComplete_applyAll (hleaves : Path.areLeaves (rules.flatMap paths) = true)
    (hfee : ∀ r ∈ rules, r.completesFee = true)
    (hdeadline : ∀ r ∈ rules, r.completesDeadline = true) (text : String) :
    (applyAll rules text).record.IsComplete := by
  -- a type that the record holds has its amounts present
  have hamounts {type : String} {amounts : List String}
      (htype : (applyAll rules text).record.text? "fee.type" = some type)
      (hknown : FeeType.amounts? type = some amounts) :
      ∀ p ∈ amounts, (applyAll rules text).record.isPresent p = true := by
    obtain ⟨v, hv, hvtext⟩ := Option.bind_eq_some_iff.1 htype
    obtain ⟨type', amounts', rfl, hknown', hpresent⟩ := exists_amounts_of_get? hleaves hfee hv
    obtain rfl : type' = type := Option.some.inj hvtext
    obtain rfl : amounts' = amounts := Option.some.inj (hknown'.symm.trans hknown)
    exact hpresent
  refine ⟨fun h => ?_, fun h => ?_, fun h => ?_, fun h => ?_, fun v hv => ?_⟩
  · have hall := hamounts h (by rfl)
    exact ⟨hall _ (by simp), hall _ (by simp)⟩
  · rcases h with h | h
    · exact hamounts h (by rfl) _ (by simp)
    · exact hamounts h (by rfl) _ (by simp)
  · exact hamounts h (by rfl) _ (by simp)
  · obtain ⟨r, hr, w, hw⟩ := exists_evidence_of_isPresent h
    obtain ⟨hhour, hminute⟩ := alwaysFills_of_completesDeadline (hdeadline r hr) hw
    exact ⟨isPresent_of_alwaysFills hleaves hr hw hhour,
      isPresent_of_alwaysFills hleaves hr hw hminute⟩
  · obtain ⟨type, amounts, rfl, hknown, -⟩ := exists_amounts_of_get? hleaves hfee hv
    exact ⟨type, FeeType.mem_known_of_amounts? hknown, rfl⟩

end CancellationPolicy.Rule
