import CancellationPolicy.Json.Source
import CancellationPolicy.Span

/-! # Spans as documents

A span is written as an object of its two offsets. Reading refuses offsets in
reverse order.
-/

namespace CancellationPolicy.Span

open Json (Source)

/-- Why a text holds no span. -/
inductive Error where
  /-- The text is no document of a span. -/
  | unreadable
  /-- The offsets are in reverse order. -/
  | reversed (start stop : Nat)
  deriving DecidableEq, Repr

/-- What is said of an error, if anything is. -/
def Error.message? : Error → Option String
  | unreadable => none
  | reversed start stop => some s!"span start {start} is after end {stop}"

/-- Reads the two offsets. -/
def offsets? (x : Source) : Option (Nat × Nat) := do
  let ms ← x.fields? ["start", "end"] Source.nesting
  let start ← Source.required? "start" ms Source.nat?
  let stop ← Source.required? "end" ms Source.nat?
  return (start, stop)

/-- Reads a span from a text. The offsets are compared before what follows the
document is looked at. -/
def read (text : String) : Except Error Span :=
  match Source.readFront? text.toList with
  | none => .error .unreadable
  | some (x, rest) =>
    match offsets? x with
    | none => .error .unreadable
    | some (start, stop) =>
      if h : start ≤ stop then
        if (Source.skip rest).isEmpty then .ok ⟨start, stop, h⟩ else .error .unreadable
      else .error (.reversed start stop)

/-- The span as a document. -/
def toJson (s : Span) : Json := .object [("start", .nat s.start), ("end", .nat s.stop)]

end CancellationPolicy.Span
