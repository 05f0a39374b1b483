import CancellationPolicy.Json.Basic

/-! # Numerals of documents

A numeral is kept as it is written and evaluated when its value is asked for. A
numeral without point and exponent is a whole number as long as it fits 64 bits.
Every other one is a 64-bit number: as many digits as fit 64 bits become a whole
number, which is then scaled by a power of ten in one rounded step. Digits behind
those are counted, not read, so the value can differ from the nearest number in
its last place. A value beyond the largest number is refused.
-/

namespace CancellationPolicy.Json

/-- A numeral, cut into its parts. -/
structure Numeral where
  /-- Whether a minus sign stands in front. -/
  negative : Bool
  /-- The digits in front of the point. -/
  whole : List Char
  /-- The digits behind the point, if there is one. -/
  fraction : Option (List Char)
  /-- The sign and the digits of the exponent, if there is one. -/
  exponent : Option (Bool × List Char)
  deriving DecidableEq, Repr

namespace Numeral

/-- The first natural of more than 64 bits. -/
def wordBound : Nat := Nat.pow 2 64

/-- Appends digits to `n` as long as the number fits 64 bits; the number and the
digits that are left. -/
def takeDigits : Nat → List Char → Nat × List Char
  | n, [] => (n, [])
  | n, d :: ds =>
    let m := 10 * n + (d.toNat - 48)
    if m < wordBound then takeDigits m ds else (n, d :: ds)

/-- A power of ten as the nearest number. -/
def tenPower (n : Nat) : Double := Binary.ofNat .double (Nat.pow 10 n)

/-- Multiplies by ten to the power `e`, in steps of at most 308 places; none if
the result is beyond the largest number. `fuel` bounds the count of steps, of
which a number of 64 bits needs at most four before it vanishes. -/
def scale? : (fuel : Nat) → Double → Int → Option Double
  | 0, x, _ => some x
  | fuel + 1, x, e =>
    if e.natAbs ≤ 308 then
      if 0 ≤ e then
        let y := x * tenPower e.natAbs
        if y.isInfinite then none else some y
      else some (x / tenPower e.natAbs)
    else if x.isZero then some x
    else if 0 ≤ e then none
    else scale? fuel (x / tenPower 308) (e + 308)

/-- The number `significand * 10 ^ e` with a sign. -/
def assemble? (negative : Bool) (significand : Nat) (e : Int) : Option Double :=
  (scale? 5 (Binary.ofNat .double significand) e).map fun x => if negative then -x else x

/-- The greatest exponent that is told apart from larger ones. -/
def exponentBound : Nat := Nat.pow 2 31

/-- Keeps an exponent within 32 bits. -/
def clampExponent (e : Int) : Int := max (-(Nat.pow 2 31)) (min (Nat.pow 2 31 - 1) e)

/-- The value of a numeral; none if it is beyond the largest number. -/
def value? (n : Numeral) : Option Number :=
  let (whole, skipped) := takeDigits 0 n.whole
  let (significand, before) :=
    match n.fraction with
    | none => (whole, (skipped.length : Int))
    | some ds =>
      let (m, rest) := takeDigits whole ds
      (m, (skipped.length : Int) - (ds.length - rest.length : Nat))
  -- digits that are skipped before the point count as zeros
  match n.exponent with
  | some (minus, ds) =>
    let e := ds.foldl (fun e d => 10 * e + (d.toNat - 48)) 0
    if e < exponentBound then
      (assemble? n.negative significand
        (clampExponent (if minus then before - e else before + e))).map .double
    -- an exponent of more than 31 bits makes a number too large or zero
    else if significand ≠ 0 ∧ minus = false then none
    else some (.double (Binary.zero .double n.negative))
  | none =>
    if n.fraction.isNone ∧ skipped.isEmpty then
      if n.negative = false then some (.int significand)
      else if 0 < significand ∧ significand ≤ Nat.pow 2 63 then some (.int (-(significand : Int)))
      else some (.double (-(Binary.ofNat .double significand)))
    else (assemble? n.negative significand before).map .double

end Numeral

/-- The 32-bit number nearest to a number. -/
def Number.toSingle : Number → Single
  | .int n => Binary.ofInt .single n
  | .double x => x.convert .single
  | .single x => x

end CancellationPolicy.Json
