import CancellationPolicy.Numeric.Nearest

/-! # Binary floating point

`Binary f` holds the numbers of a binary format: a sign, a significand of
limited length and an exponent, the two infinities and one value that is not a
number. Every operation computes the exact result and rounds it once
(`Binary.round`), to the nearest number of the format and to the even
significand on a tie.

A finite number is kept in its only canonical form, so that two finite numbers
other than zero are equal exactly when their values are. Zero has a sign, which
comparisons do not see.
-/

namespace CancellationPolicy

/-- A binary format: the length of its significands and the range of the
exponents of their last place. -/
structure Binary.Format where
  /-- How many binary digits a significand has at most. -/
  precision : Nat
  /-- The least exponent of a last place. -/
  minExponent : Int
  /-- The greatest exponent of a last place. -/
  maxExponent : Int
  deriving DecidableEq, Repr

namespace Binary

/-- The format of 32 bits. -/
def Format.single : Format := ⟨24, -149, 104⟩

/-- The format of 64 bits. -/
def Format.double : Format := ⟨53, -1074, 971⟩

/-- The canonical way to write a number: the exponent is in range, and the
significand has full length unless the exponent is the least one. -/
def Canonical (f : Format) (significand : Nat) (exponent : Int) : Prop :=
  significand < Nat.pow 2 f.precision ∧ f.minExponent ≤ exponent ∧ exponent ≤ f.maxExponent ∧
    (Nat.pow 2 (f.precision - 1) ≤ significand ∨ exponent = f.minExponent)

instance (f : Format) (m : Nat) (e : Int) : Decidable (Canonical f m e) := by
  unfold Canonical; infer_instance

end Binary

/-- A number of the format `f`. -/
inductive Binary (f : Binary.Format) where
  /-- The result of an undefined operation. -/
  | nan
  /-- A result beyond the largest number. -/
  | infinity (negative : Bool)
  /-- The number `significand * 2 ^ exponent`, with a sign. -/
  | finite (negative : Bool) (significand : Nat) (exponent : Int)
      (canonical : Binary.Canonical f significand exponent)
  deriving DecidableEq

/-- A number of 32 bits. -/
abbrev Single := Binary .single

/-- A number of 64 bits. -/
abbrev Double := Binary .double

namespace Binary

variable {f g : Format}

/-! ### Rounding -/

/-- The finite number with the given parts, or an infinity where they are out
of range. -/
def ofParts (f : Format) (negative : Bool) (significand : Nat) (exponent : Int) : Binary f :=
  if h : Canonical f significand exponent then .finite negative significand exponent h
  else .infinity negative

/-- Zero with a sign. -/
def zero (f : Format) (negative : Bool) : Binary f := ofParts f negative 0 f.minExponent

/-- `num / den` counted in units of `2 ^ exponent`, rounded to the nearest. -/
def unitsNearest (num den : Nat) (exponent : Int) : Nat :=
  divNearest (num * Nat.pow 2 (-exponent).toNat) (den * Nat.pow 2 exponent.toNat)

/-- The exponent of the last place of `num / den` at full length, which is one
of two neighbouring candidates, but not less than the least exponent. -/
def placeOf (f : Format) (num den : Nat) : Int :=
  let e : Int := (num.log2 : Int) - den.log2 - f.precision + 1
  let short := num * Nat.pow 2 (-e).toNat < Nat.pow 2 (f.precision - 1) * (den * Nat.pow 2 e.toNat)
  max f.minExponent (if short then e - 1 else e)

/-- The number of the format nearest to `num / den`, with the given sign. -/
def round (f : Format) (negative : Bool) (num den : Nat) : Binary f :=
  if num = 0 then zero f negative
  else
    let e := placeOf f num den
    let m := unitsNearest num den e
    if m = Nat.pow 2 f.precision then ofParts f negative (Nat.pow 2 (f.precision - 1)) (e + 1)
    else ofParts f negative m e

/-- The number nearest to `m * 2 ^ e`. -/
def ofScaled (f : Format) (negative : Bool) (m : Nat) (e : Int) : Binary f :=
  round f negative (m * Nat.pow 2 e.toNat) (Nat.pow 2 (-e).toNat)

/-- The number nearest to a natural. -/
def ofNat (f : Format) (n : Nat) : Binary f := round f false n 1

/-- The number nearest to an integer. -/
def ofInt (f : Format) (n : Int) : Binary f := round f (n < 0) n.natAbs 1

/-- The number nearest to `m / 10 ^ places`. -/
def ofDecimal (f : Format) (negative : Bool) (m places : Nat) : Binary f :=
  round f negative m (Nat.pow 10 places)

/-- The number of another format nearest to a number. -/
def convert (g : Format) : Binary f → Binary g
  | nan => nan
  | infinity n => infinity n
  | finite n m e _ => ofScaled g n m e

/-! ### Parts -/

/-- Whether the number is neither infinite nor undefined. -/
def isFinite : Binary f → Bool
  | finite .. => true
  | _ => false

/-- Whether the number is infinite. -/
def isInfinite : Binary f → Bool
  | infinity _ => true
  | _ => false

/-- Whether the number is a zero of either sign. -/
def isZero : Binary f → Bool
  | finite _ m _ _ => m == 0
  | _ => false

/-- The signed significand of `m * 2 ^ e` counted in units of `2 ^ place`, for a
place not above `e`. -/
def signedUnits (negative : Bool) (m : Nat) (e place : Int) : Int :=
  let n : Int := (m * Nat.pow 2 (e - place).toNat : Nat)
  if negative then -n else n

/-- The value of a finite number. -/
def toRat? : Binary f → Option Rat
  | finite n m e _ =>
    let v : Rat := (m * Nat.pow 2 e.toNat : Nat) / (Nat.pow 2 (-e).toNat : Nat)
    some (if n then -v else v)
  | _ => none

/-! ### Arithmetic -/

/-- The number with the other sign. -/
def neg : Binary f → Binary f
  | nan => nan
  | infinity n => infinity (!n)
  | finite n m e h => finite (!n) m e h

/-- The rounded sum. A sum that vanishes is positive unless both numbers are
negative. -/
def add : Binary f → Binary f → Binary f
  | nan, _ => nan
  | _, nan => nan
  | infinity a, infinity b => if a = b then infinity a else nan
  | infinity a, finite .. => infinity a
  | finite .., infinity b => infinity b
  | finite a m e _, finite b n d _ =>
    let place := min e d
    let s := signedUnits a m e place + signedUnits b n d place
    if s = 0 then zero f (a && b) else ofScaled f (s < 0) s.natAbs place

/-- The rounded product. -/
def mul : Binary f → Binary f → Binary f
  | nan, _ => nan
  | _, nan => nan
  | infinity a, infinity b => infinity (a != b)
  | infinity a, finite b n _ _ => if n = 0 then nan else infinity (a != b)
  | finite a m _ _, infinity b => if m = 0 then nan else infinity (a != b)
  | finite a m e _, finite b n d _ => ofScaled f (a != b) (m * n) (e + d)

/-- The rounded quotient. -/
def div : Binary f → Binary f → Binary f
  | nan, _ => nan
  | _, nan => nan
  | infinity _, infinity _ => nan
  | infinity a, finite b .. => infinity (a != b)
  | finite a .., infinity b => zero f (a != b)
  | finite a m e _, finite b n d _ =>
    if n = 0 then (if m = 0 then nan else infinity (a != b))
    else
      let place := min e d
      round f (a != b) (m * Nat.pow 2 (e - place).toNat) (n * Nat.pow 2 (d - place).toNat)

instance : Zero (Binary f) := ⟨zero f false⟩
instance : One (Binary f) := ⟨ofNat f 1⟩
instance : Neg (Binary f) := ⟨neg⟩
instance : Add (Binary f) := ⟨add⟩
instance : Sub (Binary f) := ⟨fun x y => add x (neg y)⟩
instance : Mul (Binary f) := ⟨mul⟩
instance : Div (Binary f) := ⟨div⟩

/-- The nearest integral number, a tie going away from zero. -/
def roundIntegral : Binary f → Binary f
  | finite n m e _ =>
    if 0 ≤ e then ofScaled f n m e
    else
      let d := Nat.pow 2 (-e).toNat
      round f n ((2 * m + d) / (2 * d)) 1
  | x => x

/-! ### Order -/

/-- The order of two numbers by value; none if one of them is undefined. -/
def compare? : Binary f → Binary f → Option Ordering
  | nan, _ => none
  | _, nan => none
  | infinity a, infinity b => some (compare b.toNat a.toNat)
  | infinity a, finite .. => some (if a then .lt else .gt)
  | finite .., infinity b => some (if b then .gt else .lt)
  | finite a m e _, finite b n d _ =>
    let place := min e d
    some (compare (signedUnits a m e place) (signedUnits b n d place))

/-- Whether one number is below another; false if one of them is undefined. -/
def ltb (x y : Binary f) : Bool := compare? x y == some .lt

/-- Whether one number is at most another; false if one of them is undefined. -/
def leb (x y : Binary f) : Bool :=
  match compare? x y with
  | some .lt => true
  | some .eq => true
  | _ => false

instance : LT (Binary f) := ⟨fun x y => ltb x y = true⟩
instance : LE (Binary f) := ⟨fun x y => leb x y = true⟩
instance : DecidableLT (Binary f) := fun x y => inferInstanceAs (Decidable (ltb x y = true))
instance : DecidableLE (Binary f) := fun x y => inferInstanceAs (Decidable (leb x y = true))

/-- Whether the number carries a minus sign. -/
def isNegative : Binary f → Bool
  | nan => false
  | infinity n => n
  | finite n .. => n

/-- The total order in which negative zero comes before positive zero and an
undefined number last. -/
def totalCompare (x y : Binary f) : Ordering :=
  match compare? x y with
  | some .eq => compare y.isNegative.toNat x.isNegative.toNat
  | some o => o
  | none =>
    match x, y with
    | nan, nan => .eq
    | nan, _ => .gt
    | _, _ => .lt

instance : Ord (Binary f) := ⟨totalCompare⟩

/-! ### Undefined numbers compare as false -/

theorem not_nan_le (x : Binary f) : ¬(nan : Binary f) ≤ x := by
  show ¬leb nan x = true
  cases x <;> simp [leb, compare?]

theorem not_le_nan (x : Binary f) : ¬x ≤ (nan : Binary f) := by
  show ¬leb x nan = true
  cases x <;> simp [leb, compare?]

end Binary

end CancellationPolicy
