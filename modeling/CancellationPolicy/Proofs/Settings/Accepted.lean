import CancellationPolicy.Settings.Basic

/-!
# Accepted settings

Settings without fault are those whose numbers lie where they should (`fault?_eq_none_iff`).
The check does not ask for numbers to be finite (`Settings.IsFinite`): a weight, a penalty or the
least coverage of a decision may be infinite.
-/

namespace CancellationPolicy

/-- Whether a number lies in the range from zero to one. -/
def Binary.InUnit (x : Single) : Prop := 0 ≤ x ∧ x ≤ 1

instance (x : Single) : Decidable (Binary.InUnit x) := inferInstanceAs (Decidable (_ ∧ _))

/-! ### The numbers of settings -/

section Numbers

variable {α : Type}

/-- The numbers of a bucket. -/
def Bucket.numbers (b : Bucket α) : List α := [b.least, b.score]

/-- The numbers of penalties. -/
def Penalties.numbers (p : Penalties α) : List α := [p.feeAmount, p.count]

/-- The numbers of the settings of the confidence, counts apart. -/
def Confidence.Settings.numbers (s : Confidence.Settings α) : List α :=
  [s.alpha, s.minorStrength, s.cap, s.threshold] ++ s.weights.map Prod.snd ++
    s.buckets.flatMap Bucket.numbers ++ s.penalties.numbers

end Numbers

namespace Settings

/-- The numbers of settings, counts apart. -/
def numbers (s : Settings) : List Single := s.confidence.numbers ++ [s.decision.threshold]

/-- Whether all numbers of settings are finite. -/
def IsFinite (s : Settings) : Prop := ∀ x ∈ s.numbers, x.isFinite = true

instance (s : Settings) : Decidable s.IsFinite := inferInstanceAs (Decidable (∀ x ∈ s.numbers, _))

/-! ### What the check asks for -/

/-- What holds of settings without fault. -/
structure Accepted (s : Settings) : Prop where
  /-- The share of the field score lies between zero and one. -/
  alpha : Binary.InUnit s.confidence.alpha
  /-- A field that is not critical counts in part. -/
  minorStrength : Binary.InUnit s.confidence.minorStrength
  /-- The cap is a confidence. -/
  cap : Binary.InUnit s.confidence.cap
  /-- The confidence from which on a record is trusted is one. -/
  threshold : Binary.InUnit s.confidence.threshold
  /-- No weight is negative. -/
  weights : ∀ w ∈ s.confidence.weights, 0 ≤ w.2
  /-- The buckets are finite. -/
  buckets : ∀ b ∈ s.confidence.buckets, b.least.isFinite = true ∧ b.score.isFinite = true
  /-- The penalty for a fee amount is not negative. -/
  feeAmount : 0 ≤ s.confidence.penalties.feeAmount
  /-- The penalty for a count is not negative. -/
  count : 0 ≤ s.confidence.penalties.count
  /-- The least coverage of a decision is not negative. -/
  coverage : 0 ≤ s.decision.threshold

theorem faultUnless_eq_none_iff {p : Prop} [Decidable p] {fault : Fault} :
    (if p then none else some fault) = none ↔ p := by
  split <;> simp [*]

theorem unitFault?_eq_none_iff {name : String} {x : Single} :
    unitFault? name x = none ↔ Binary.InUnit x := faultUnless_eq_none_iff

theorem weightFault?_eq_none_iff {weights : Keyed Single} :
    weightFault? weights = none ↔ ∀ w ∈ weights, 0 ≤ w.2 := by
  simp [weightFault?, List.find?_eq_none]

theorem bucketFault?_eq_none_iff {buckets : List (Bucket Single)} :
    bucketFault? buckets = none ↔
      ∀ b ∈ buckets, b.least.isFinite = true ∧ b.score.isFinite = true := by
  simp [bucketFault?, List.find?_eq_none]

theorem penaltyFault?_eq_none_iff {p : Penalties Single} :
    penaltyFault? p = none ↔ 0 ≤ p.feeAmount ∧ 0 ≤ p.count := faultUnless_eq_none_iff

/-- Settings without fault are accepted ones. -/
theorem fault?_eq_none_iff {s : Settings} : s.fault? = none ↔ s.Accepted := by
  simp only [fault?, List.findSome?_eq_none_iff, List.forall_mem_cons, id_eq, List.not_mem_nil,
    false_imp_iff, forall_const, and_true, unitFault?_eq_none_iff, weightFault?_eq_none_iff,
    bucketFault?_eq_none_iff, penaltyFault?_eq_none_iff, faultUnless_eq_none_iff]
  constructor
  · rintro ⟨halpha, hminor, hcap, hthreshold, hweights, hbuckets, ⟨hfee, hcount⟩, hcoverage⟩
    exact ⟨halpha, hminor, hcap, hthreshold, hweights, hbuckets, hfee, hcount, hcoverage⟩
  · intro h
    exact ⟨h.alpha, h.minorStrength, h.cap, h.threshold, h.weights, h.buckets,
      ⟨h.feeAmount, h.count⟩, h.coverage⟩

example : default.fault? = none ∧ default.IsFinite := by decide +kernel

end Settings

end CancellationPolicy
