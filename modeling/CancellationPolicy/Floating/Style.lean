import CancellationPolicy.Floating.Shortest

/-! # Writing numbers

A `NumberStyle` says how the shortest digits of a number are laid out: which
sizes are written without an exponent, whether whole numbers keep a point, and
how an exponent looks. The styles in use are values of that type
(`NumberStyle.plain`, `.inspected`, `.document`).

`writeFixed` writes a number with a fixed count of decimal places, rounding the
exact value and sending a tie to the even digit.
-/

namespace CancellationPolicy

/-- How the digits of a number are laid out. -/
structure NumberStyle where
  /-- The exponents of the first digit for which no exponent is written; without
  bounds none is ever written. -/
  positional : Option (Int × Int)
  /-- Whether a whole number ends in a point and a zero. -/
  point : Bool
  /-- Whether a positive exponent has a plus sign. -/
  plus : Bool
  /-- The least count of digits of an exponent. -/
  exponentDigits : Nat
  /-- Which of two equally near shortest digits is taken. -/
  tie : Tie
  deriving DecidableEq, Repr

namespace NumberStyle

/-- Never an exponent, and no point on whole numbers. -/
def plain : NumberStyle := ⟨none, false, false, 1, .up⟩

/-- A point on whole numbers, and an exponent from `1e16` on and below `1e-4`. -/
def inspected : NumberStyle := ⟨some (-4, 15), true, false, 1, .up⟩

/-- Numbers of 64 bits in documents. -/
def document : NumberStyle := ⟨some (-5, 15), true, true, 2, .even⟩

/-- Numbers of 32 bits in documents. -/
def shortDocument : NumberStyle := ⟨some (-6, 12), true, true, 2, .even⟩

end NumberStyle

/-- The decimal digits of a natural. -/
def digitsOf (n : Nat) : List Char := Nat.toDigits 10 n

/-- The decimal digits of a natural, with zeros in front up to a width. -/
def digitsPadded (width n : Nat) : List Char :=
  let ds := digitsOf n
  List.replicate (width - ds.length) '0' ++ ds

namespace NumberStyle

/-- Lays out the digits `ds`, of which the last has the exponent `k`, without an
exponent. -/
def layOut (style : NumberStyle) (ds : List Char) (k : Int) : List Char :=
  if 0 ≤ k then ds ++ List.replicate k.toNat '0' ++ (if style.point then ['.', '0'] else [])
  else
    let whole : Int := ds.length + k
    if 0 < whole then ds.take whole.toNat ++ '.' :: ds.drop whole.toNat
    else '0' :: '.' :: List.replicate (-whole).toNat '0' ++ ds

/-- Lays out the digits `ds` with a point behind the first, which has the
exponent `e`. -/
def layOutScientific (style : NumberStyle) (ds : List Char) (e : Int) : List Char :=
  let mantissa := match ds with
    | d :: [] => [d]
    | d :: rest => d :: '.' :: rest
    | [] => []
  let sign := if e < 0 then ['-'] else if style.plus then ['+'] else []
  mantissa ++ 'e' :: sign ++ digitsPadded style.exponentDigits e.natAbs

/-- The text of a positive decimal. -/
def layOutDecimals (style : NumberStyle) (x : Binary.Decimals) : List Char :=
  let ds := digitsOf x.digits
  let e : Int := x.exponent + ds.length - 1
  match style.positional with
  | none => style.layOut ds x.exponent
  | some (lo, hi) =>
    if lo ≤ e ∧ e ≤ hi then style.layOut ds x.exponent else style.layOutScientific ds e

end NumberStyle

namespace Binary

variable {f : Format}

/-- The text of a number in a style. -/
def write (style : NumberStyle) : Binary f → String
  | nan => "NaN"
  | infinity n => if n then "-inf" else "inf"
  | finite n m e _ =>
    let body :=
      if m = 0 then (if style.point then ['0', '.', '0'] else ['0'])
      else style.layOutDecimals (shortest f style.tie m e)
    String.ofList (if n then '-' :: body else body)

/-- The text of a number with a fixed, positive count of decimal places. -/
def writeFixed (places : Nat) : Binary f → String
  | nan => "NaN"
  | infinity n => if n then "-inf" else "inf"
  | finite n m e _ =>
    let units := divNearest (m * Nat.pow 2 e.toNat * Nat.pow 10 places) (Nat.pow 2 (-e).toNat)
    let ds := digitsPadded (places + 1) units
    let body := ds.take (ds.length - places) ++ '.' :: ds.drop (ds.length - places)
    String.ofList (if n then '-' :: body else body)

end Binary

end CancellationPolicy
