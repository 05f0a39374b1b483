import CancellationPolicy.Extraction.Basic
import CancellationPolicy.Proofs.Extraction.Replay
import CancellationPolicy.Proofs.Floating.Zero
import CancellationPolicy.Proofs.Scoring.Bucket
import CancellationPolicy.Proofs.Scoring.Coverage
import CancellationPolicy.Proofs.Scoring.Range

/-!
# Without evidence there is no confidence

A rule is silent in a text if it finds empty occurrences at most, and these give no value for its
fields.  Silent rules leave the record empty, and what they find covers nothing.  Every stage of the
scores takes that to zero: the fields, whatever their weights are; the coverage, in a text of any
length; the table of buckets, also where it has a bucket that every coverage meets; and the blend of
both.  So nothing is accepted, unless nothing is asked for (`Extraction.ofText_of_isSilent`).
-/

namespace CancellationPolicy

open Binary

/-! ### Silent rules -/

namespace Rule

variable {rules : List Rule} {r : Rule} {text : String}

/-- Whether a rule has no occurrence in a text that is not empty, and none that gives a value for a
field. -/
def IsSilent (text : String) (r : Rule) : Prop :=
  ∀ fields ∈ r.fields, ∀ x ∈ r.pattern.occurrences text,
    x.span.isEmpty = true ∧ ∀ f ∈ fields, f.expression.resolve? x.captures = none

theorem IsSilent.evidence_eq_nil (h : r.IsSilent text) : r.evidence text = [] := by
  refine List.eq_nil_iff_forall_not_mem.2 fun e he => ?_
  obtain ⟨fields, hfields, x, hx, f, hf, -, hv⟩ := mem_evidence.1 he
  rw [(h fields hfields x hx).2 f hf] at hv
  cases hv

/-- Silent rules leave the record empty. -/
theorem record_applyAll_of_isSilent (h : ∀ r ∈ rules, r.IsSilent text) :
    (applyAll rules text).record = .new := by
  have hnil : (inOrder rules).flatMap (evidence text) = [] :=
    List.flatMap_eq_nil_iff.2 fun r hr => (h r ((mem_stableSort _).1 hr)).evidence_eq_nil
  rw [applyAll_eq, hnil]
  rfl

theorem isEmpty_of_mem_spans (h : ∀ r ∈ rules, r.IsSilent text) {s : Span}
    (hs : s ∈ (applyAll rules text).spans) : s.isEmpty = true := by
  obtain ⟨r, hr, henabled, x, hx, rfl⟩ := mem_spans_applyAll.1 hs
  obtain ⟨fields, hfields⟩ := Option.isSome_iff_exists.1 henabled
  exact (h r hr fields hfields x hx).1

end Rule

/-! ### Coverage -/

theorem Span.covered_eq_zero {spans : List Span} (h : ∀ s ∈ spans, s.isEmpty = true) :
    covered spans = 0 := by
  have hunion : union spans = ∅ := by
    refine Finset.eq_empty_of_forall_notMem fun i hi => ?_
    obtain ⟨s, hs, hle, hlt⟩ := mem_union.1 hi
    have hempty : s.start = s.stop := beq_iff_eq.1 (h s hs)
    omega
  rw [covered_eq_card, hunion, Finset.card_empty]

/-- Spans that cover nothing have no coverage, however long the text is. -/
theorem coverage_eq_zero {spans : List Span} (h : Span.covered spans = 0) (length : Nat) :
    (coverage spans length : Single) = 0 := by
  rw [coverage]
  split
  · rfl
  · rename_i hnot
    simp only [Bool.or_eq_true, beq_iff_eq, not_or] at hnot
    rw [h]
    exact zero_div_of_pos (zero_lt_natCast (Nat.pos_of_ne_zero hnot.2))

/-! ### Scores -/

namespace Confidence

variable {settings : Settings Single}

theorem tally_new (settings : Settings Single) :
    (tally settings .new).weighted = 0 ∧ (tally settings .new).critical = 0 := by
  have hfold (fields : List (String × Single)) (t : Tally Single) :
      (fields.foldl (Tally.add settings .new) t).weighted = t.weighted ∧
        (fields.foldl (Tally.add settings .new) t).critical = t.critical := by
    induction fields generalizing t with
    | nil => exact ⟨rfl, rfl⟩
    | cons field fields ih => exact ih _
  exact hfold settings.weights ⟨0, 0, 0⟩

/-- The fields of an empty record have no score, whatever they weigh together. -/
theorem score_tally_new (settings : Settings Single) : (tally settings .new).score = 0 := by
  rw [Tally.score, (tally_new settings).1]
  split
  · rename_i hpos
    exact zero_div_of_pos hpos
  · rfl

theorem clamp_zero (a : Bool) : clamp (zero .single a) = zero .single a := by
  cases a <;> decide

/-- Where the share of the fields has a minus sign it is zero, and that of the coverage is one. -/
theorem isNegative_shares (h : InUnit settings.alpha) :
    (settings.alpha.isNegative && (1 - settings.alpha).isNegative) = false := by
  cases hsign : settings.alpha.isNegative with
  | false => rfl
  | true =>
    -- a share of minus zero leaves one for the coverage
    rw [eq_zero_of_isNegative h.1 hsign]
    decide

/-- Scores of zero are blended to zero, which is not above the cap. -/
theorem blend_zero (halpha : InUnit settings.alpha) (hcap : 0 ≤ settings.cap) (n : Nat) :
    blend settings 0 0 n 0 = (0, false) := by
  have hshare := (inUnit_iff.1 (inUnit_one_sub halpha)).1
  have hblended : clamp (settings.alpha * 0 + (1 - settings.alpha) * 0 - 0) = 0 := by
    rw [mul_zero_of_isFinite (inUnit_iff.1 halpha).1, mul_zero_of_isFinite hshare, add_zeros,
      sub_zeros, clamp_zero, isNegative_shares halpha]
    rfl
  rw [blend, hblended]
  refine if_neg fun h => ?_
  obtain ⟨a, ha, hpos⟩ := zero_le_iff.1 hcap
  obtain ⟨b, hb, hneg⟩ := (lt_iff_of_value? ha).1 h.2
  obtain rfl := Option.some.inj ((value?_zero false).symm.trans hb)
  exact absurd hneg (not_lt.2 hpos)

/-- The confidence in an empty record that spans of empty passages led to. -/
theorem score_new {s : CancellationPolicy.Settings} (h : s.Accepted) {spans : List Span}
    (hspans : Span.covered spans = 0) (text : String) :
    let c := score s.confidence .new spans text
    c.value = 0 ∧ c.coverage = 0 ∧ c.penalties = 0 := by
  have hblend : blend s.confidence (tally s.confidence .new).score
      (bucketScore s.confidence (CancellationPolicy.coverage spans text.utf8ByteSize))
      (tally s.confidence .new).critical (penaltiesOf s.confidence .new) = (0, false) := by
    rw [score_tally_new, coverage_eq_zero hspans, bucketScore_of_not_pos (by decide)]
    exact blend_zero h.alpha h.cap.1 _
  exact ⟨congrArg Prod.fst hblend, coverage_eq_zero hspans _, rfl⟩

end Confidence

/-! ### Extractions -/

namespace Extraction

/-- Take settings without fault and rules that are silent in the canonical form of a text.  Then the
record is empty, both coverages, the confidence and the penalties are zero, and no signal is
present.  The extraction is accepted for its confidence only if that may be zero, and on a decision
only if this asks neither for coverage nor for signals. -/
theorem ofText_of_isSilent {s : Settings} (hs : s.fault? = none) (rules : RuleSet) (text : String)
    (hsilent : ∀ r ∈ rules.rules, r.IsSilent (CancellationPolicy.canonical text)) :
    let x := ofText rules s.confidence s.decision text
    x.outcome.record = .new ∧ x.confidence.coverage = 0 ∧ x.decision.coverage = 0 ∧
      x.confidence.value = 0 ∧ x.confidence.penalties = 0 ∧ x.decision.signals = [] ∧
      (x.isAccepted .confidence = true ↔ s.confidence.threshold.isZero = true) ∧
      (x.isAccepted .decision = true ↔
        s.decision.threshold.isZero = true ∧ s.decision.minSignals = 0) := by
  intro x
  have haccepted := Settings.fault?_eq_none_iff.1 hs
  have hrecord : x.outcome.record = .new := Rule.record_applyAll_of_isSilent hsilent
  have hcovered : Span.covered x.outcome.spans = 0 :=
    Span.covered_eq_zero fun _ hspan => Rule.isEmpty_of_mem_spans hsilent hspan
  -- both scores are those of the empty record
  have hconfidence : x.confidence =
      .score s.confidence .new x.outcome.spans x.canonical := hrecord ▸ rfl
  have hdecision : x.decision = .ofRecord s.decision .new x.outcome.spans x.canonical :=
    hrecord ▸ rfl
  obtain ⟨hvalue, hcoverage, hpenalties⟩ :=
    Confidence.score_new haccepted hcovered x.canonical
  rw [← hconfidence] at hvalue hcoverage hpenalties
  have hcoverage' : x.decision.coverage = 0 := by
    rw [hdecision]
    exact coverage_eq_zero hcovered _
  have hsignals : x.decision.signals = [] := by
    rw [hdecision]
    rfl
  refine ⟨hrecord, hcoverage, hcoverage', hvalue, hpenalties, hsignals, ?_, ?_⟩
  · show decide (s.confidence.threshold ≤ x.confidence.value) = true ↔ _
    rw [hvalue, decide_eq_true_iff, le_zero_iff_isZero haccepted.threshold.1]
  · show (decide (s.decision.threshold ≤ x.decision.coverage) &&
      decide (s.decision.minSignals ≤ x.decision.signals.length)) = true ↔ _
    rw [hcoverage', hsignals, Bool.and_eq_true, decide_eq_true_iff, decide_eq_true_iff,
      le_zero_iff_isZero haccepted.coverage, List.length_nil, Nat.le_zero]

/-- A rule that finds the empty passages of a text, and fills a field from a part that it lacks. -/
def emptyRule : Rule :=
  { id := "empty", priority := 1, source := "", pattern := .text []
    fields := some [⟨"fee.percent", ⟨["$share"]⟩⟩] }

/-- Settings with an infinite weight and a bucket that all coverages meet, under which everything is
accepted. -/
def lenient : Settings where
  rulesPath := none
  confidence :=
    { Confidence.Settings.default with
      weights := [("fee.percent", infinity false)], buckets := [⟨-1, 1⟩], threshold := 0 }
  decision := { Decision.Settings.default with threshold := 0, minSignals := 0 }

theorem ofText_of_isSilent_emptyRule :
    let x := ofText ⟨"1", [emptyRule]⟩ lenient.confidence lenient.decision "No fee"
    lenient.fault? = none ∧
      (∀ r ∈ [emptyRule], r.IsSilent (CancellationPolicy.canonical "No fee")) ∧
      x.outcome.spans ≠ [] ∧ x.confidence.value = 0 ∧ x.isAccepted .decision = true := by
  intro x
  have hs : lenient.fault? = none := by decide +kernel
  have hsilent : ∀ r ∈ [emptyRule], r.IsSilent (CancellationPolicy.canonical "No fee") := by
    unfold Rule.IsSilent
    decide +kernel
  have hspans : x.outcome.spans ≠ [] := by decide +kernel
  obtain ⟨-, -, -, hvalue, -, -, -, hdecision⟩ :=
    ofText_of_isSilent hs ⟨"1", [emptyRule]⟩ "No fee" hsilent
  exact ⟨hs, hsilent, hspans, hvalue, hdecision.2 ⟨by decide +kernel, rfl⟩⟩

end Extraction

end CancellationPolicy
