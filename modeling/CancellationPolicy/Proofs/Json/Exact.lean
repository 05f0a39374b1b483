import CancellationPolicy.Proofs.Floating.Widening
import CancellationPolicy.Proofs.Json.Layout

/-!
# The number that a numeral stands for

Whatever a reader makes of it, a numeral stands for one rational (`Numeral.exact`).  That of a
number in a document is its shortest decimal (`exact_numeral`).  A number of 32 bits is written with
the same value in 32 and in 64 bits exactly if its shortest decimal is rounded to it in 64 bits as
well (`exact_numeral_convert_iff`).
-/

namespace CancellationPolicy

open Binary

namespace Json.Numeral

/-- The rational that a numeral stands for. -/
def exact (n : Numeral) : ℚ := signed n.negative (n.significand * 10 ^ n.lastExponent)

/-- The number of a format that is nearest to a numeral. -/
def toBinary (f : Format) (n : Numeral) : Binary f :=
  Binary.round f n.negative (n.significand * Nat.pow 10 n.lastExponent.toNat)
    (Nat.pow 10 (-n.lastExponent).toNat)

/-- A scaled number is a quotient of natural ones. -/
theorem scaled_ten_eq_div (s : Nat) (a : Int) :
    ((s * Nat.pow 10 a.toNat : ℕ) : ℚ) / (Nat.pow 10 (-a).toNat : ℕ) = s * 10 ^ a := by
  have hpos : (0 : ℚ) < 10 ^ (-a).toNat := by positivity
  rw [Nat.pow_eq, Nat.pow_eq]
  push_cast
  rw [ten_pow_toNat a, ← mul_assoc, mul_div_assoc, div_self hpos.ne', mul_one]

end Json.Numeral

namespace Binary

open Json.Numeral (scaled_ten_eq_div)

variable {f : Format} {m : Nat} {e : Int}

/-- The numeral of a number stands for its shortest decimal. -/
theorem exact_numeral (style : NumberStyle) (negative : Bool) (hm : m ≠ 0) (h : Canonical f m e) :
    ((finite negative m e h).numeral style).exact =
      signed negative (shortest f style.tie m e).value := by
  rw [numeral, if_neg hm, Json.Numeral.exact, negative_numeral,
    (NumberStyle.values_numeral style negative _).scaled_eq]

theorem exact_numeral_zero (style : NumberStyle) (negative : Bool) (h : Canonical f 0 e) :
    ((finite negative 0 e h).numeral style).exact = 0 := by
  have hsignificand : (⟨negative, ['0'], some ['0'], none⟩ : Json.Numeral).significand = 0 := rfl
  rw [numeral, if_pos rfl, Json.Numeral.exact, hsignificand, Nat.cast_zero, zero_mul]
  cases negative <;> simp [signed]

/-- Whether the decimal that a number of 32 bits is written with stands for it in 64 bits, too. -/
def KeepsDecimal (x : Single) : Prop :=
  (x.numeral .shortDocument).toBinary .double = x.convert .double

instance (x : Single) : Decidable x.KeepsDecimal := inferInstanceAs (Decidable (_ = _))

/-- A number keeps its decimal exactly if its decimal is nearest to it in 64 bits too. -/
theorem keepsDecimal_iff_isNearest (negative : Bool) (hm : m ≠ 0) (h : Canonical .single m e) :
    (finite negative m e h).KeepsDecimal ↔
      IsNearest .double (m * 2 ^ widening m) (e - widening m) (shortest .single .even m e).value := by
  have hn : m * 2 ^ widening m ≠ 0 := Nat.mul_ne_zero hm (Nat.two_pow_pos _).ne'
  have hden (i : Nat) : 0 < Nat.pow 10 i := Nat.pow_pos (by decide)
  rw [KeepsDecimal, convert_double_eq hm h, numeral, if_neg hm, Json.Numeral.toBinary,
    negative_numeral, round_eq_finite_iff negative (by decide) hn (hden _),
    scaled_ten_eq_div, (NumberStyle.values_numeral _ _ _).scaled_eq]
  rfl

theorem convert_double_zero (negative : Bool) (h : Canonical .single 0 e) :
    (finite negative 0 e h).convert .double = finite negative 0 (-1074) (by decide) := by
  obtain rfl : e = -149 := h.2.2.2.resolve_left (by decide)
  cases negative <;> rfl

/-- A finite number of 32 bits is finite in 64 bits. -/
theorem isFinite_convert_double {x : Single} (hx : x.isFinite = true) :
    (x.convert .double).isFinite = true := by
  cases x with
  | nan => cases hx
  | infinity _ => cases hx
  | finite negative m e h =>
    by_cases hm : m = 0
    · subst hm
      rw [convert_double_zero]
      rfl
    · rw [convert_double_eq hm h]
      rfl

theorem signed_inj {negative : Bool} {p q : ℚ} : signed negative p = signed negative q ↔ p = q := by
  cases negative <;> simp [signed]

/-- A number of 32 bits is written with the same value in both formats exactly if its decimal stands
for it in 64 bits, too. -/
theorem exact_numeral_convert_iff {x : Single} (hx : x.isFinite = true) :
    ((x.convert .double).numeral .document).exact = (x.numeral .shortDocument).exact ↔
      x.KeepsDecimal := by
  cases x with
  | nan => cases hx
  | infinity _ => cases hx
  | finite negative m e h =>
    by_cases hm : m = 0
    · -- zero has one exponent only in 32 bits, and is written in one way
      subst hm
      -- both numerals are zero
      rw [convert_double_zero, exact_numeral_zero, exact_numeral_zero]
      refine iff_of_true rfl ?_
      obtain rfl : e = -149 := h.2.2.2.resolve_left (by decide)
      cases negative <;> decide +revert +kernel
    · rw [keepsDecimal_iff_isNearest negative hm h, ← value_shortest_eq_iff hm h,
        convert_double_eq hm h, exact_numeral _ _ (Nat.mul_ne_zero hm (Nat.two_pow_pos _).ne'),
        exact_numeral _ _ hm, signed_inj]
      rfl

end Binary

end CancellationPolicy
