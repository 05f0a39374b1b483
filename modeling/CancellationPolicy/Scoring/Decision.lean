import CancellationPolicy.Record.Basic
import CancellationPolicy.Record.FeeType
import CancellationPolicy.Scoring.Coverage

/-! # Decision

The decision whether a record can be used as it is. It asks for a coverage of the
filtered text and for a number of signals, each of which is a family of fields
that can stand for one another.
-/

namespace CancellationPolicy

/-- A family of fields that can stand for one another. -/
inductive Signal where
  /-- What a cancellation costs. -/
  | fee
  /-- Until which date cancellation is free. -/
  | deadline
  /-- How long before arrival cancellation is free. -/
  | window
  deriving DecidableEq, Repr

namespace Signal

/-- All signals. -/
def all : List Signal := [fee, deadline, window]

/-- The name of a signal in documents. -/
def name : Signal → String
  | fee => "fee"
  | deadline => "deadline"
  | window => "window"

/-- The fields of a signal. -/
def fields : Signal → List String
  | fee => ["fee.amount", "fee.nights", "fee.percent"]
  | deadline => ["deadline.iso", "deadline.date_ddmmmyy", "deadline.local_hour"]
  | window => ["window.cutoff_days", "window.cutoff_hours", "special_window.cutoff_days"]

/-- Whether the fee of a record is the price of the whole stay. -/
def hasFullStayFee (r : Record) : Bool := (r.text? "fee.type").any FeeType.isFullStay

/-- Whether a record has a field of the signal. A fee of the whole stay needs no
amount. -/
def isPresent (s : Signal) (r : Record) : Bool :=
  s.fields.any r.isPresent || (s == fee && hasFullStayFee r)

end Signal

/-- What a decision asks for. -/
structure Decision.Settings (α : Type) where
  /-- The least coverage. -/
  threshold : α
  /-- The least count of signals. -/
  minSignals : Nat
  /-- The characters that do not count in the length of a text. -/
  ignorable : String
  /-- The phrases that do not count in the length of a text. -/
  phrases : List String
  deriving DecidableEq

/-- A decision, and what it was based on. -/
structure Decision (α : Type) where
  /-- Whether the record can be used. -/
  isAccepted : Bool
  /-- The coverage of the filtered text. -/
  coverage : α
  /-- The signals that are present. -/
  signals : List Signal
  deriving DecidableEq

namespace Decision

variable {α : Type}

/-- The decision on a record that matches of a text led to. -/
def ofRecord [Zero α] [Div α] [NatCast α] [LE α] [DecidableLE α] (settings : Settings α)
    (r : Record) (spans : List Span) (text : String) : Decision α :=
  let coverage : α :=
    CancellationPolicy.coverage spans (filteredLength text settings.ignorable settings.phrases)
  let signals := Signal.all.filter fun s => s.isPresent r
  { isAccepted := settings.threshold ≤ coverage && settings.minSignals ≤ signals.length,
    coverage, signals }

end Decision

end CancellationPolicy
