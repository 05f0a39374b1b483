import CancellationPolicy.Floating.Binary

/-! # The fewest decimal digits that read back

A positive number `m * 2 ^ e` of a binary format is the nearest number for
every real of an interval around it, whose ends count when `m` is even.
`shortest` finds the decimal with the fewest digits in that interval, and among
those the one nearest to the number.

On the grid of the multiples of `10 ^ k` only the two neighbours of the number
can be that decimal (`onGrid?`): if any point of a grid lies in the interval, so
does one of the neighbours. So the grids are tried from coarse to fine.
-/

namespace CancellationPolicy

/-- Which of two equally near neighbours is taken. -/
inductive Tie where
  /-- The one with an even last digit. -/
  | even
  /-- The greater one. -/
  | up
  deriving DecidableEq, Repr

namespace Binary

/-- The decimal `digits * 10 ^ exponent`. -/
structure Decimals where
  /-- The digits, read as one number without trailing zeros. -/
  digits : Nat
  /-- The exponent of the last digit. -/
  exponent : Int
  deriving DecidableEq, Repr

/-- The exponent of the first decimal digit of `num / den`. -/
def leadingExponent (num den : Nat) : Int :=
  let guess : Int := ((num.log2 : Int) - den.log2) * 30103 / 100000
  let reached (k : Int) : Bool := den * Nat.pow 10 k.toNat ≤ num * Nat.pow 10 (-k).toNat
  if reached (guess + 1) then guess + 1 else if reached guess then guess else guess - 1

/-- The neighbour of `m * 2 ^ e` on the grid of step `10 ^ k` that reads back,
the nearer of two such neighbours. -/
def onGrid? (f : Format) (tie : Tie) (m : Nat) (e k : Int) : Option Nat :=
  -- everything is counted in quarters of the last place, times the powers of ten and two
  -- that make the counts natural
  let quarter := Nat.pow 2 (e - 2).toNat * Nat.pow 10 (-k).toNat
  let step := Nat.pow 10 k.toNat * Nat.pow 2 (2 - e).toNat
  let value := 4 * m * quarter
  let narrow := m = Nat.pow 2 (f.precision - 1) ∧ f.minExponent < e
  let lower := (if narrow then 4 * m - 1 else 4 * m - 2) * quarter
  let upper := (4 * m + 2) * quarter
  let closed := m % 2 == 0
  let d := value / step
  let below := lower < d * step || (closed && lower == d * step)
  let above := (d + 1) * step < upper || (closed && (d + 1) * step == upper)
  let rest := 2 * (value % step)
  match below, above with
  | true, false => some d
  | false, true => some (d + 1)
  | false, false => none
  -- the nearer of two neighbours is taken, and `tie` decides where they are equally near
  | true, true =>
    if rest < step then some d
    else if step < rest then some (d + 1)
    else match tie with
      | .up => some (d + 1)
      | .even => some (if d % 2 = 0 then d else d + 1)

/-- Drops trailing zeros of the digits; `fuel` bounds how many. -/
def Decimals.strip : Nat → Decimals → Decimals
  | 0, x => x
  | fuel + 1, x =>
    if x.digits % 10 = 0 ∧ x.digits ≠ 0 then strip fuel ⟨x.digits / 10, x.exponent + 1⟩ else x

/-- The shortest decimal that reads back as the positive number `m * 2 ^ e`, and
the nearest to it of that length. No format in use needs more than seventeen
digits. -/
def shortest (f : Format) (tie : Tie) (m : Nat) (e : Int) : Decimals :=
  let top := leadingExponent (m * Nat.pow 2 e.toNat) (Nat.pow 2 (-e).toNat)
  let found := (List.range 17).findSome? fun (i : Nat) =>
    let k := top - (i : Int)
    (onGrid? f tie m e k).map fun d => Decimals.mk d k
  (found.getD ⟨m, e⟩).strip 17

end Binary

end CancellationPolicy
