import CancellationPolicy.Sorting

/-! # Spans of a text

A span is the part of a text between two byte offsets, the second excluded.

`Span.merge` joins spans that overlap or touch, so that what they cover can be
counted (`Span.covered`).
-/

namespace CancellationPolicy

/-- The bytes from `start` up to but not including `stop`. -/
structure Span where
  /-- The first offset. -/
  start : Nat
  /-- The offset behind the last. -/
  stop : Nat
  start_le_stop : start ≤ stop
  deriving DecidableEq

namespace Span

/-- The span between two offsets in either order. -/
def between (a b : Nat) : Span :=
  ⟨min a b, max a b, Nat.le_trans (Nat.min_le_left a b) (Nat.le_max_left a b)⟩

/-- How many bytes the span has. -/
def length (s : Span) : Nat := s.stop - s.start

/-- Whether the span has no bytes. -/
def isEmpty (s : Span) : Bool := s.start == s.stop

/-- The least span that holds two spans. -/
def hull (s t : Span) : Span :=
  ⟨min s.start t.start, max s.stop t.stop,
    Nat.le_trans (Nat.min_le_left _ _) (Nat.le_trans s.start_le_stop (Nat.le_max_left _ _))⟩

/-! ### Union -/

/-- The spans in increasing order of their starts. -/
def sortByStart (ss : List Span) : List Span := stableSort (fun s t => s.start ≤ t.start) ss

/-- Joins a span with those that follow it in order, as far as they overlap or
touch it. -/
def absorb (s : Span) : List Span → List Span
  | [] => [s]
  | t :: ts => if t.start ≤ s.stop then absorb (hull s t) ts else s :: absorb t ts

/-- The disjoint spans, in order and not touching, that cover the same bytes. -/
def merge (ss : List Span) : List Span :=
  match sortByStart ss with
  | [] => []
  | s :: ts => absorb s ts

/-- How many bytes spans have in all, each counted by itself. -/
def total : List Span → Nat
  | [] => 0
  | s :: ss => s.length + total ss

/-- How many bytes the spans cover together. -/
def covered (ss : List Span) : Nat := total (merge ss)

end Span

end CancellationPolicy
