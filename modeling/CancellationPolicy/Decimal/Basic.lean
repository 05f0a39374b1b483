import CancellationPolicy.Numeric.Nearest

/-! # Exact decimals

A `Decimal` is a sign, a mantissa of at most 96 bits and a scale of at most 28
decimal places. Two decimals may have one value and different scales (`50` and
`50.00`); `normalize` takes the scale with the fewest places.

Zero may carry a sign only as the outcome of cutting places off a negative
number.
-/

namespace CancellationPolicy

/-- The least natural that no mantissa reaches. -/
def Decimal.mantissaBound : Nat := Nat.pow 2 96

/-- The greatest scale. -/
def Decimal.maxScale : Nat := 28

/-- The number `mantissa / 10 ^ scale`, with a sign. -/
structure Decimal where
  /-- Whether a minus sign stands in front. -/
  negative : Bool
  /-- All digits, read as one natural. -/
  mantissa : Nat
  /-- How many of the digits stand behind the point. -/
  scale : Nat
  mantissa_lt : mantissa < Decimal.mantissaBound
  scale_le : scale ≤ Decimal.maxScale
  deriving DecidableEq

namespace Decimal

/-- The decimal with the given parts, if they are in range. A zero built from
parts has no sign. -/
def ofParts? (negative : Bool) (mantissa scale : Nat) : Option Decimal :=
  if h : mantissa < mantissaBound ∧ scale ≤ maxScale then
    some ⟨negative && mantissa != 0, mantissa, scale, h.1, h.2⟩
  else none

/-- A natural below the bound as a decimal. -/
def ofNat (n : Nat) (h : n < mantissaBound := by decide) : Decimal :=
  ⟨false, n, 0, h, Nat.zero_le _⟩

instance : Zero Decimal := ⟨ofNat 0⟩

instance : Inhabited Decimal := ⟨0⟩

/-! ### Value -/

/-- The value of a decimal. -/
def toRat (x : Decimal) : Rat :=
  let v : Rat := (x.mantissa : Rat) / ((Nat.pow 10 x.scale : Nat) : Rat)
  if x.negative then -v else v

/-- Whether the value is an integer. -/
def isIntegral (x : Decimal) : Bool := x.mantissa % Nat.pow 10 x.scale == 0

/-- The integer value with the places behind the point cut off. -/
def truncated (x : Decimal) : Int :=
  let n : Int := (x.mantissa / Nat.pow 10 x.scale : Nat)
  if x.negative then -n else n

/-! ### Scale -/

/-- Cuts trailing zeros from `m / 10 ^ s`. -/
def stripZeros : Nat → Nat → Nat × Nat
  | m, 0 => (m, 0)
  | m, s + 1 => if m % 10 = 0 then stripZeros (m / 10) s else (m, s + 1)

theorem stripZeros_fst_le : ∀ m s, (stripZeros m s).1 ≤ m
  | m, 0 => Nat.le_refl m
  | m, s + 1 => by
    unfold stripZeros
    split
    · exact Nat.le_trans (stripZeros_fst_le _ s) (Nat.div_le_self _ _)
    · exact Nat.le_refl m

theorem stripZeros_snd_le : ∀ m s, (stripZeros m s).2 ≤ s
  | _, 0 => Nat.le_refl 0
  | m, s + 1 => by
    unfold stripZeros
    split
    · exact Nat.le_succ_of_le (stripZeros_snd_le _ s)
    · exact Nat.le_refl _

/-- The same value without trailing zeros behind the point; zero without sign
and scale. -/
def normalize (x : Decimal) : Decimal :=
  if x.mantissa = 0 then 0
  else
    ⟨x.negative, (stripZeros x.mantissa x.scale).1, (stripZeros x.mantissa x.scale).2,
      Nat.lt_of_le_of_lt (stripZeros_fst_le _ _) x.mantissa_lt,
      Nat.le_trans (stripZeros_snd_le _ _) x.scale_le⟩

/-- The places behind the point cut off; the sign stays. -/
def trunc (x : Decimal) : Decimal :=
  ⟨x.negative, x.mantissa / Nat.pow 10 x.scale, 0,
    Nat.lt_of_le_of_lt (Nat.div_le_self _ _) x.mantissa_lt, Nat.zero_le _⟩

/-- A mantissa with places behind the point leaves room for one more unit. -/
theorem div_pow_add_one_lt {m s : Nat} (hm : m < mantissaBound) (hs : s ≠ 0) :
    m / Nat.pow 10 s + 1 < mantissaBound := by
  have h10 : 10 ≤ Nat.pow 10 s := by
    cases s with
    | zero => exact absurd rfl hs
    | succ s =>
      exact Nat.le_trans (by omega)
        (Nat.pow_le_pow_right (by omega) (Nat.succ_le_succ (Nat.zero_le s)))
  have h1 : m / Nat.pow 10 s ≤ m / 10 := Nat.div_le_div_left h10 (by omega)
  have hb : mantissaBound = 79228162514264337593543950336 := rfl
  omega

/-- The least integer not below the value. A negative value above minus one
gives a zero that keeps its sign. -/
def ceil (x : Decimal) : Decimal :=
  if hs : x.scale = 0 then x
  else if x.negative = false ∧ x.isIntegral = false then
    ⟨false, x.mantissa / Nat.pow 10 x.scale + 1, 0, div_pow_add_one_lt x.mantissa_lt hs,
      Nat.zero_le _⟩
  else x.trunc

/-! ### Quotient -/

/-- The quotient `num / den` rounded to the nearest, at the greatest of the
scales `s`, `s - 1`, …, 0 whose mantissa is in range. -/
def quotientAt? (negative : Bool) (num den : Nat) : Nat → Option Decimal
  | 0 => ofParts? negative (divNearest num den) 0
  | s + 1 =>
    match ofParts? negative (divNearest (num * Nat.pow 10 (s + 1)) den) (s + 1) with
    | some q => some q
    | none => quotientAt? negative num den s

/-- The quotient of two decimals, rounded to the nearest at the greatest scale
at which it can be written; none for division by zero and for quotients out of
range. -/
def div? (x y : Decimal) : Option Decimal :=
  if y.mantissa = 0 then none
  else
    (quotientAt? (x.negative != y.negative) (x.mantissa * Nat.pow 10 y.scale)
      (y.mantissa * Nat.pow 10 x.scale) maxScale).map normalize

end Decimal

end CancellationPolicy
