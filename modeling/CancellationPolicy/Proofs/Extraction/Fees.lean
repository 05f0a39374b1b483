import CancellationPolicy.Extraction.Basic
import CancellationPolicy.Proofs.Rule.Shipped

/-!
# Fees and deadlines that the shipped rules extract

Rules of different priorities fill the fields of one fee, and the first to fill a field of it need
not be the one that has filled its type.  All the same, records that the shipped rules build are
complete, so their summaries state the fee and the time of the deadline from fields of the record
(`Extraction.fees_of_shipped`).
-/

namespace CancellationPolicy.Extraction

open Summary (FeeClause)

variable {s : RuleSet}

/-- What the shipped rules extract is complete. -/
theorem isComplete_of_shipped (hs : RuleSet.shipped? = .ok s) (text : String) :
    (Rule.applyAll s.rules text).record.IsComplete :=
  Rule.isComplete_applyAll (RuleSet.areLeaves_of_shipped hs)
    (fun _ hr => (RuleSet.sound_of_shipped hs hr).2.1)
    (fun _ hr => (RuleSet.sound_of_shipped hs hr).2.2) text

/-- There are shipped rules.  The records of all extractions with them are complete.  If the type of
a fee is present and not the one that goes with policies which exclude cancellation, the fee is
stated from the fields of the record, and unless cancellation is excluded, the summary ends with the
sentence about it.  If the date of a deadline is present, its time of day is that of the record. -/
theorem fees_of_shipped :
    ∃ s, RuleSet.shipped? = .ok s ∧ ∀ confidence decision text,
      let r := (ofText s confidence decision text).outcome.record
      r.IsComplete ∧
      (r.isPresent "fee.type" = true → r.text? "fee.type" ≠ some "percentage_or_nrf" →
        ∃ type clause fee, r.text? "fee.type" = some type ∧ FeeClause r type clause ∧
          fee = ⟨clause.english ++ (Summary.taxNote r).english,
            clause.chinese ++ (Summary.taxNote r).chinese⟩ ∧
          Summary.fee? r = some fee ∧
          (r.text? "policy.cancellable" ≠ some "false" →
            ∃ front : Summary, Summary.ofRecord r =
              ⟨front.english ++ (Summary.feeSentence fee).english,
                front.chinese ++ (Summary.feeSentence fee).chinese⟩)) ∧
      (r.isPresent "deadline.date_ddmmmyy" = true →
        ∃ time, Summary.localTime? r = some time ∧ Summary.localTime r = time) := by
  obtain ⟨s, hs, -⟩ := RuleSet.exists_shipped
  refine ⟨s, hs, fun confidence decision text => ?_⟩
  intro r
  have hcomplete : r.IsComplete := isComplete_of_shipped hs _
  refine ⟨hcomplete, fun hpresent hne => ?_, Summary.exists_localTime? hcomplete⟩
  -- a complete record has what the clause of its fee needs
  obtain ⟨type, clause, htype, hclause, hfee⟩ := Summary.exists_feeClause hcomplete hpresent hne
  have hsome : Summary.fee? r = some ⟨clause.english ++ (Summary.taxNote r).english,
      clause.chinese ++ (Summary.taxNote r).chinese⟩ := by
    rw [Summary.fee?, htype]
    simp only [hfee, Option.map_some]
  exact ⟨type, clause, _, htype, hclause, rfl, hsome, Summary.exists_front_of_fee? hsome⟩

/-- A fee and a deadline that two rules find are both in the summary. -/
theorem fees_of_shipped_deadlineAndFee :
    ∃ s, RuleSet.shipped? = .ok s ∧ ∀ confidence decision,
      let r := (ofText s confidence decision
        "Cancel by 18:30 on 12mar25 or pay 50% of the stay").outcome.record
      (r.isPresent "fee.type" = true ∧ r.text? "fee.type" ≠ some "percentage_or_nrf" ∧
        r.text? "policy.cancellable" ≠ some "false" ∧
        r.isPresent "deadline.date_ddmmmyy" = true) ∧
      (∃ type clause fee, r.text? "fee.type" = some type ∧ FeeClause r type clause ∧
        fee = ⟨clause.english ++ (Summary.taxNote r).english,
          clause.chinese ++ (Summary.taxNote r).chinese⟩ ∧
        Summary.fee? r = some fee ∧
        ∃ front : Summary, Summary.ofRecord r =
          ⟨front.english ++ (Summary.feeSentence fee).english,
            front.chinese ++ (Summary.feeSentence fee).chinese⟩) ∧
      ∃ time, Summary.localTime? r = some time ∧ Summary.localTime r = time := by
  obtain ⟨s, hs, hfees⟩ := fees_of_shipped
  refine ⟨s, hs, fun confidence decision => ?_⟩
  intro r
  -- what the rules find in this text has been computed before
  have hr : r = RuleSet.deadlineAndFeeRecord := RuleSet.record_deadlineAndFee hs
  obtain ⟨hpresent, hne, hcancellable, hdate⟩ : r.isPresent "fee.type" = true ∧
      r.text? "fee.type" ≠ some "percentage_or_nrf" ∧
      r.text? "policy.cancellable" ≠ some "false" ∧
      r.isPresent "deadline.date_ddmmmyy" = true := by
    rw [hr]
    decide
  obtain ⟨-, hfee, htime⟩ := hfees confidence decision
    "Cancel by 18:30 on 12mar25 or pay 50% of the stay"
  obtain ⟨type, clause, fee, htype, hclause, heq, hsome, hfront⟩ := hfee hpresent hne
  exact ⟨⟨hpresent, hne, hcancellable, hdate⟩,
    ⟨type, clause, fee, htype, hclause, heq, hsome, hfront hcancellable⟩, htime hdate⟩

end CancellationPolicy.Extraction
