import CancellationPolicy.Extraction.Outcome
import CancellationPolicy.Settings.Basic
import CancellationPolicy.Text.Canonical

/-! # Extractions

The extraction of a policy from a text applies rules to the canonical form of the
text and scores what they find. It never fails: a text in which no rule finds
anything has an empty record.
-/

namespace CancellationPolicy

/-- What makes an extraction usable. -/
inductive Gate where
  /-- The confidence reaches its threshold. -/
  | confidence
  /-- The decision accepts the record. -/
  | decision
  deriving DecidableEq, Repr

/-- What has been extracted from a text. -/
structure Extraction where
  /-- The text. -/
  text : String
  /-- The text to which the rules were applied. -/
  canonical : String
  /-- What the rules have found. -/
  outcome : Outcome
  /-- The confidence in the record. -/
  confidence : Confidence Single
  /-- The decision on the record. -/
  decision : Decision Single
  /-- The version of the rules. -/
  rulesVersion : String

namespace Extraction

/-- Extracts a policy from a text. -/
def ofText (rules : RuleSet) (confidence : Confidence.Settings Single)
    (decision : Decision.Settings Single) (text : String) : Extraction :=
  let canonical := CancellationPolicy.canonical text
  let outcome := Rule.applyAll rules.rules canonical
  { text, canonical, outcome
    confidence := .score confidence outcome.record outcome.spans canonical
    decision := .ofRecord decision outcome.record outcome.spans canonical
    rulesVersion := rules.version }

/-- Whether the extraction can be used. -/
def isAccepted (x : Extraction) : Gate → Bool
  | .confidence => x.confidence.isTrusted
  | .decision => x.decision.isAccepted

end Extraction

end CancellationPolicy
