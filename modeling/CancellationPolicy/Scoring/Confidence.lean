import CancellationPolicy.Record.Basic
import CancellationPolicy.Scoring.Coverage

/-! # Confidence

The confidence in a record is a number from zero to one. It blends two scores:

- the weight of the fields that are present among all weighted fields, a field
  that is not critical counting in part;
- the score of the coverage of the text, by a table of buckets.

Penalties for malformed values are subtracted, and without enough critical
fields the confidence stays below a cap.

All operations are done in the order given, in any type of numbers, since the
result of rounded operations depends on it.
-/

namespace CancellationPolicy

/-- The score of coverages from a minimum on. -/
structure Bucket (α : Type) where
  /-- The least coverage. -/
  least : α
  /-- The score. -/
  score : α
  deriving DecidableEq

/-- What is subtracted for malformed values. -/
structure Penalties (α : Type) where
  /-- For a fee amount that is not well-formed. -/
  feeAmount : α
  /-- For a count field that holds no number. -/
  count : α
  deriving DecidableEq

/-- How the confidence is computed. -/
structure Confidence.Settings (α : Type) where
  /-- The share of the field score in the blend. -/
  alpha : α
  /-- The weights of fields. -/
  weights : Keyed α
  /-- The critical fields. -/
  critical : List String
  /-- How much a field that is not critical counts. -/
  minorStrength : α
  /-- The scores of coverages. -/
  buckets : List (Bucket α)
  /-- How many critical fields lift the cap. -/
  minCritical : Nat
  /-- The cap. -/
  cap : α
  /-- What is subtracted for malformed values. -/
  penalties : Penalties α
  /-- The confidence from which on a record is trusted. -/
  threshold : α
  deriving DecidableEq

/-- The confidence in a record, and what it was computed from. -/
structure Confidence (α : Type) where
  /-- The confidence. -/
  value : α
  /-- The score of the fields. -/
  fieldScore : α
  /-- The coverage of the text. -/
  coverage : α
  /-- The score of the coverage. -/
  coverageScore : α
  /-- How many critical fields with a weight are present. -/
  critical : Nat
  /-- What was subtracted. -/
  penalties : α
  /-- Whether the cap replaced the blend. -/
  isCapped : Bool
  /-- Whether the record is trusted. -/
  isTrusted : Bool
  deriving DecidableEq

namespace Confidence

variable {α : Type}

/-! ### Fields -/

/-- The weight of the fields seen so far. -/
structure Tally (α : Type) where
  /-- The weight of those that are present, in part for some. -/
  weighted : α
  /-- The weight of all. -/
  total : α
  /-- How many critical ones are present. -/
  critical : Nat

/-- Counts a field with its weight. -/
def Tally.add [Add α] [Mul α] (settings : Settings α) (r : Record) (t : Tally α)
    (field : String × α) : Tally α :=
  let total := t.total + field.2
  if !r.isPresent field.1 then { t with total }
  else if settings.critical.contains field.1 then ⟨t.weighted + field.2, total, t.critical + 1⟩
  else ⟨t.weighted + settings.minorStrength * field.2, total, t.critical⟩

/-- The tally of all weighted fields, in the order of their names. -/
def tally [Zero α] [Add α] [Mul α] (settings : Settings α) (r : Record) : Tally α :=
  settings.weights.foldl (Tally.add settings r) ⟨0, 0, 0⟩

/-- The share of the weight that is present; zero if there is no positive
weight. -/
def Tally.score [Zero α] [Div α] [LT α] [DecidableLT α] (t : Tally α) : α :=
  if 0 < t.total then t.weighted / t.total else 0

/-! ### Coverage -/

/-- The bucket with the greatest minimum that a coverage meets, the later of two
with the same. -/
def bucket? [LE α] [DecidableLE α] [Ord α] (buckets : List (Bucket α)) (coverage : α) :
    Option (Bucket α) :=
  buckets.foldl (fun best b =>
    if b.least ≤ coverage then
      match best with
      | some a => if compare a.least b.least = .gt then some a else some b
      | none => some b
    else best) none

/-- The score of a coverage; zero unless the coverage is positive. -/
def bucketScore [Zero α] [LT α] [DecidableLT α] [LE α] [DecidableLE α] [Ord α]
    (settings : Settings α) (coverage : α) : α :=
  if 0 < coverage then
    match bucket? settings.buckets coverage with
    | some b => b.score
    | none => 0
  else 0

/-! ### Penalties -/

/-- What is subtracted for the malformed values of a record. -/
def penaltiesOf [Zero α] [Add α] (settings : Settings α) (r : Record) : α :=
  let total : α :=
    match r.text? "fee.amount" with
    | some s => if Amount.isWellFormed s then 0 else 0 + settings.penalties.feeAmount
    | none => 0
  if r.hasMalformed then total + settings.penalties.count else total

/-! ### Blend -/

/-- The number moved into the range from zero to one. A number that is in no
order with these stays. -/
def clamp [Zero α] [One α] [LT α] [DecidableLT α] (x : α) : α :=
  let x := if x < 0 then 0 else x
  if 1 < x then 1 else x

/-- The confidence of scores, a count of critical fields and penalties, and
whether the cap replaced it. -/
def blend [Zero α] [One α] [Add α] [Sub α] [Mul α] [LT α] [DecidableLT α]
    (settings : Settings α) (fieldScore coverageScore : α) (critical : Nat) (penalties : α) :
    α × Bool :=
  let a := settings.alpha
  let blended := clamp (a * fieldScore + (1 - a) * coverageScore - penalties)
  if critical < settings.minCritical ∧ settings.cap < blended then (settings.cap, true)
  else (blended, false)

/-- The confidence is the cap or the blend moved into the range. -/
theorem blend_fst [Zero α] [One α] [Add α] [Sub α] [Mul α] [LT α] [DecidableLT α]
    (settings : Settings α) (x y : α) (n : Nat) (penalties : α) :
    (blend settings x y n penalties).1 =
      let b := clamp (settings.alpha * x + (1 - settings.alpha) * y - penalties)
      if n < settings.minCritical ∧ settings.cap < b then settings.cap else b :=
  apply_ite Prod.fst _ _ _

/-- The confidence in a record that matches of a text led to. -/
def score [Zero α] [One α] [Add α] [Sub α] [Mul α] [Div α] [NatCast α] [LT α] [DecidableLT α]
    [LE α] [DecidableLE α] [Ord α] (settings : Settings α) (r : Record) (spans : List Span)
    (text : String) : Confidence α :=
  let tally := tally settings r
  let coverage : α := CancellationPolicy.coverage spans text.utf8ByteSize
  let coverageScore := bucketScore settings coverage
  let penalties := penaltiesOf settings r
  let (value, isCapped) := blend settings tally.score coverageScore tally.critical penalties
  { value, fieldScore := tally.score, coverage, coverageScore, critical := tally.critical,
    penalties, isCapped, isTrusted := settings.threshold ≤ value }

end Confidence

end CancellationPolicy
