import CancellationPolicy.Decimal.Double
import CancellationPolicy.Decimal.Notation
import CancellationPolicy.Json.Basic

/-! # Values of fields

A field of a policy holds a text or a number. Numbers are shown without trailing
zeros. In documents a whole number of 64 bits is written as such, and any other
number as the 64-bit number it converts to.
-/

namespace CancellationPolicy

/-- What a field of a policy holds. -/
inductive Value where
  /-- A text, as found. -/
  | text (content : String)
  /-- A number. -/
  | number (value : Decimal)
  deriving DecidableEq

namespace Value

instance : Inhabited Value := ⟨text ""⟩

/-- Whether the value carries nothing. -/
def isEmpty : Value → Bool
  | text s => s.isEmpty
  | number _ => false

/-- The text of a value that is one. -/
def text? : Value → Option String
  | text s => some s
  | number _ => none

/-- The number of a value that is one. -/
def number? : Value → Option Decimal
  | text _ => none
  | number n => some n

/-- The value as it is shown to a reader. -/
def display : Value → String
  | text s => s
  | number n => n.normalize.toText

/-- The value as it stands in documents. -/
def toJson : Value → Json
  | text s => .text s
  | number n =>
    match n.toInt64? with
    | some i => .number (.int i)
    | none => .number (.double n.toDouble)

end Value

end CancellationPolicy
