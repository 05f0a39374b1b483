import CancellationPolicy.Floating.Style
import CancellationPolicy.Scoring.Confidence
import CancellationPolicy.Scoring.Decision

/-! # Settings

The settings of a program: where its rules come from and how records are
scored. Settings that would make scores meaningless have a fault
(`Settings.fault?`), the first of which is reported.
-/

namespace CancellationPolicy

/-- The settings of a program. -/
structure Settings where
  /-- The file of the rules; the shipped rules are used without one. -/
  rulesPath : Option String
  /-- How the confidence is computed. -/
  confidence : Confidence.Settings Single
  /-- What a decision asks for. -/
  decision : Decision.Settings Single
  deriving DecidableEq

/-! ### Defaults -/

/-- The 32-bit number nearest to a count of hundredths. -/
def hundredths (n : Nat) : Single := Binary.ofDecimal .single false n 2

/-- The penalties used unless settings say otherwise. -/
def Penalties.default : Penalties Single := ⟨hundredths 10, hundredths 5⟩

/-- How the confidence is computed unless settings say otherwise. -/
def Confidence.Settings.default : Confidence.Settings Single where
  alpha := hundredths 75
  weights := Keyed.ofList [
    ("deadline.iso", hundredths 45), ("window.cutoff_days", hundredths 25),
    ("fee.amount", hundredths 15), ("fee.nights", hundredths 15),
    ("deadline.local_hour", hundredths 5), ("deadline.date_ddmmmyy", hundredths 5),
    ("fee.currency", hundredths 5), ("fee.percent", hundredths 10)]
  critical := ["deadline.iso", "window.cutoff_days", "fee.amount", "fee.nights", "fee.percent"]
  minorStrength := hundredths 60
  buckets := [
    ⟨hundredths 40, hundredths 100⟩, ⟨hundredths 20, hundredths 60⟩, ⟨hundredths 0, hundredths 30⟩]
  minCritical := 2
  cap := hundredths 60
  penalties := .default
  threshold := hundredths 80

/-- What a decision asks for unless settings say otherwise. -/
def Decision.Settings.default : Decision.Settings Single where
  threshold := hundredths 35
  minSignals := 2
  ignorable := ".,;:!()\"'"
  phrases := ["PLEASE NOTE THAT", "PLEASE NOTE", "THANK YOU"]

namespace Settings

/-- The settings used unless a document says otherwise. -/
def default : Settings := ⟨none, .default, .default⟩

/-! ### Faults -/

/-- Why settings would make scores meaningless. -/
inductive Fault where
  /-- A number lies outside of the range from zero to one. -/
  | outsideUnit (name : String) (value : Single)
  /-- The weight of a field is negative. -/
  | negativeWeight (field : String) (weight : Single)
  /-- A bucket holds a number that is not finite. -/
  | infiniteBucket (bucket : Bucket Single)
  /-- A penalty is negative. -/
  | negativePenalty
  /-- The least coverage of a decision is negative. -/
  | negativeThreshold
  deriving DecidableEq

/-- What is said of a fault. -/
def Fault.message : Fault → String
  | outsideUnit name value => name ++ " must be within [0, 1], got " ++ value.write .plain
  | negativeWeight field weight =>
    "weight for " ++ field ++ " must be non-negative, got " ++ weight.write .plain
  | infiniteBucket b =>
    "coverage bucket CoverageBucket \x7b min: " ++ b.least.write .inspected ++ ", score: " ++
      b.score.write .inspected ++ " \x7d must be finite"
  | negativePenalty => "penalties must be non-negative"
  | negativeThreshold => "scoring.decision.coverage_threshold must be non-negative"

/-- The fault of a number that is to lie in the range from zero to one. -/
def unitFault? (name : String) (value : Single) : Option Fault :=
  if 0 ≤ value ∧ value ≤ 1 then none else some (.outsideUnit name value)

/-- The first field with a weight that is not at least zero. -/
def weightFault? (weights : Keyed Single) : Option Fault :=
  (List.find? (fun w => !decide (0 ≤ w.2)) weights).map fun w => .negativeWeight w.1 w.2

/-- The first bucket that is not finite. -/
def bucketFault? (buckets : List (Bucket Single)) : Option Fault :=
  (buckets.find? fun b => !b.least.isFinite || !b.score.isFinite).map .infiniteBucket

/-- The fault of penalties that are not at least zero. -/
def penaltyFault? (p : Penalties Single) : Option Fault :=
  if 0 ≤ p.feeAmount ∧ 0 ≤ p.count then none else some .negativePenalty

/-- The first fault of settings. -/
def fault? (s : Settings) : Option Fault :=
  let c := s.confidence
  [unitFault? "scoring.confidence.alpha" c.alpha,
    unitFault? "scoring.confidence.non_critical_strength" c.minorStrength,
    unitFault? "scoring.confidence.low_critical_cap" c.cap,
    unitFault? "scoring.confidence.accept_threshold" c.threshold,
    weightFault? c.weights, bucketFault? c.buckets, penaltyFault? c.penalties,
    if 0 ≤ s.decision.threshold then none else some .negativeThreshold].findSome? id

end Settings

end CancellationPolicy
