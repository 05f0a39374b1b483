/-! # Evenly spaced code points

`Stretch` — evenly spaced code points that a mapping moves by one distance.

Case mappings of the character database move whole runs of letters, or every
second code point of a run, by the same distance. A mapping is then a list of
stretches in increasing order of their first code point.
-/

namespace CancellationPolicy

/-- The code points `first`, `first + step`, …, `last`, all moved by `shift`. -/
structure Stretch where
  /-- The first code point moved. -/
  first : Nat
  /-- The last code point moved. -/
  last : Nat
  /-- The distance between neighbouring code points of the stretch. -/
  step : Nat
  /-- How far each code point is moved. -/
  shift : Int
  deriving Repr

namespace Stretch

/-- Whether the stretch moves the code point `c`. -/
def covers (s : Stretch) (c : Nat) : Bool :=
  s.first ≤ c && c ≤ s.last && (c - s.first) % s.step == 0

/-- The code point that `c` is moved to. -/
def image (s : Stretch) (c : Nat) : Nat := ((c : Int) + s.shift).toNat

/-- The code point that is moved to `c`, if the stretch moves one there. -/
def source? (s : Stretch) (c : Nat) : Option Nat :=
  let a := (c : Int) - s.shift
  if 0 ≤ a ∧ s.covers a.toNat then some a.toNat else none

/-- The code points of the stretch. -/
def members (s : Stretch) : List Nat :=
  (List.range ((s.last - s.first) / s.step + 1)).map fun i => s.first + i * s.step

/-- The image of `c` under the first stretch that moves it, for stretches in
increasing order of their first code points. -/
def find? (c : Nat) : List Stretch → Option Nat
  | [] => none
  | s :: rest =>
    if c < s.first then none
    else if s.covers c then some (s.image c)
    else find? c rest

end Stretch

end CancellationPolicy
