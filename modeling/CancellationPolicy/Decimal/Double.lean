import CancellationPolicy.Decimal.Basic
import CancellationPolicy.Floating.Binary

/-! # Decimals as numbers of 64 bits

A whole decimal becomes the nearest number. A decimal with places behind the
point is assembled from its whole part and its fraction, and the sum is rounded
to the scale of the decimal: multiplied by the power of ten, rounded to a whole
number and divided again, each step in 64-bit arithmetic. The result can differ
from the nearest number in its last place.
-/

namespace CancellationPolicy.Decimal

/-- Ten to the power `n` by repeated squaring in 64-bit arithmetic: `base` is
squared for every binary digit of `n` and multiplied in for every one among
them. `fuel` bounds the count of digits. -/
def powerLoop : (fuel : Nat) → (base acc : Double) → Nat → Double
  | 0, _, acc, _ => acc
  | fuel + 1, base, acc, n =>
    let acc := if n % 2 = 1 then acc * base else acc
    if n / 2 = 0 then acc else powerLoop fuel (base * base) acc (n / 2)

/-- Ten to the power `n` in 64-bit arithmetic, for scales. -/
def tenPower (n : Nat) : Double := powerLoop 8 (Binary.ofNat .double 10) 1 n

/-- The number of 64 bits for a decimal. -/
def toDouble (x : Decimal) : Double :=
  let unsigned : Double :=
    if x.scale = 0 then Binary.ofNat .double x.mantissa
    else
      let one := Nat.pow 10 x.scale
      let whole := Binary.ofNat .double (x.mantissa / one)
      let fraction := Binary.ofNat .double (x.mantissa % one) / Binary.ofNat .double one
      if fraction.isZero then whole
      else
        let power := tenPower x.scale
        ((whole + fraction) * power).roundIntegral / power
  if x.negative then -unsigned else unsigned

/-- The integer value of a decimal, if it is one of 64 bits. -/
def toInt64? (x : Decimal) : Option Int :=
  let n := x.truncated
  if x.isIntegral ∧ -(Nat.pow 2 63 : Int) ≤ n ∧ n < Nat.pow 2 63 then some n else none

end CancellationPolicy.Decimal
