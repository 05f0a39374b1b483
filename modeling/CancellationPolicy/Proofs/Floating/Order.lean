import CancellationPolicy.Floating.Binary
import Mathlib.Algebra.Order.Field.Power
import Mathlib.Algebra.Order.Ring.Rat
import Mathlib.Order.WithBot
import Mathlib.Tactic.NormNum
import Mathlib.Tactic.Positivity
import Mathlib.Tactic.Ring

/-!
# The order of numbers by value

`Binary.value?` reads a number as a rational or as an infinite end of the rationals (`Extended`);
one that is not a number has no value.  Comparisons of numbers are comparisons of these values
(`lt_iff`, `le_iff`), so the order is transitive (`le_trans`).

The comparison counts both numbers in units of the lesser last place; `signedUnits_mul` turns these
counts back into values.
-/

namespace CancellationPolicy

/-! ### Rationals with infinite ends -/

/-- The rationals with an end in both directions. -/
abbrev Extended := WithBot (WithTop ℚ)

namespace Extended

/-- A rational as a value. -/
def ofRat (q : ℚ) : Extended := WithBot.some (WithTop.some q)

/-- The end below the rationals, or the one above them. -/
def endOf (negative : Bool) : Extended := if negative then ⊥ else ⊤

theorem ofRat_le_ofRat {p q : ℚ} : ofRat p ≤ ofRat q ↔ p ≤ q :=
  WithBot.coe_le_coe.trans WithTop.coe_le_coe

theorem ofRat_lt_ofRat {p q : ℚ} : ofRat p < ofRat q ↔ p < q :=
  WithBot.coe_lt_coe.trans WithTop.coe_lt_coe

theorem ofRat_lt_top (q : ℚ) : ofRat q < ⊤ := WithBot.coe_lt_coe.2 (WithTop.coe_lt_top q)

theorem ofRat_zero : ofRat 0 = 0 := rfl

end Extended

namespace Binary

open Extended

variable {f : Format} {x y z : Binary f}

/-! ### Values -/

/-- A number with a sign. -/
def signed (negative : Bool) (q : ℚ) : ℚ := if negative then -q else q

/-- The value of a number, which may be infinite. -/
def value? : Binary f → Option Extended
  | nan => none
  | infinity n => some (endOf n)
  | finite n m e _ => some (ofRat (signed n (m * 2 ^ e)))

theorem two_zpow_pos (e : Int) : (0 : ℚ) < 2 ^ e := zpow_pos (by norm_num) e

theorem signed_mul (negative : Bool) (p q : ℚ) :
    signed negative (p * q) = signed negative p * q := by
  cases negative
  · rfl
  · exact (neg_mul p q).symm

theorem abs_signed (negative : Bool) (q : ℚ) : |signed negative q| = |q| := by
  cases negative
  · rfl
  · exact abs_neg q

theorem signed_sub (negative : Bool) (p q : ℚ) :
    signed negative p - signed negative q = signed negative (p - q) := by
  cases negative
  · rfl
  · show -p - -q = -(p - q)
    ring

theorem signed_div_signed (a b : Bool) (p q : ℚ) :
    signed a p / signed b q = signed (a != b) (p / q) := by
  cases a <;> cases b <;> simp [signed, neg_div, div_neg]

/-- Units in a lesser place have the same value. -/
theorem signedUnits_mul (negative : Bool) (m : Nat) {e place : Int} (h : place ≤ e) :
    (signedUnits negative m e place : ℚ) * 2 ^ place = signed negative (m * 2 ^ e) := by
  have hpow : (2 : ℚ) ^ (e - place).toNat * 2 ^ place = 2 ^ e := by
    rw [← zpow_natCast, ← zpow_add₀ (by norm_num)]
    congr 1
    omega
  have hunits : (signedUnits negative m e place : ℚ) =
      signed negative (m * 2 ^ (e - place).toNat) := by
    cases negative <;> simp [signedUnits, signed]
  rw [hunits, ← signed_mul, mul_assoc, hpow]

/-! ### Comparisons -/

/-- Numbers that have values are compared like these. -/
theorem compare?_eq (x y : Binary f) :
    compare? x y = x.value?.bind fun a => y.value?.map fun b => cmp a b := by
  cases x with
  | nan => rfl
  | infinity n =>
    cases y with
    | nan => rfl
    | infinity k => cases n <;> cases k <;> rfl
    | finite k m e h => cases n <;> rfl
  | finite n m e h =>
    cases y with
    | nan => rfl
    | infinity k => cases k <;> rfl
    | finite k l d h' =>
      -- a greater count of the same unit is a greater value, so that the counts compare alike
      have hmono : StrictMono fun i : Int => ofRat (i * 2 ^ min e d) := by
        intro i j hij
        exact ofRat_lt_ofRat.2 (mul_lt_mul_of_pos_right (Int.cast_lt.2 hij) (two_zpow_pos _))
      have hcmp := hmono.cmp_map_eq (signedUnits n m e (min e d)) (signedUnits k l d (min e d))
      rw [signedUnits_mul n m (min_le_left e d), signedUnits_mul k l (min_le_right e d)] at hcmp
      rw [compare?, value?, value?, Option.bind_some, Option.map_some, hcmp, cmp_eq_compare]

theorem compare?_eq_some_iff {o : Ordering} :
    compare? x y = some o ↔ ∃ a, x.value? = some a ∧ ∃ b, y.value? = some b ∧ cmp a b = o := by
  rw [compare?_eq, Option.bind_eq_some_iff]
  exact exists_congr fun _ => and_congr_right fun _ => Option.map_eq_some_iff

/-- A number is below another one if both have values and these are in order. -/
theorem lt_iff : x < y ↔ ∃ a, x.value? = some a ∧ ∃ b, y.value? = some b ∧ a < b := by
  show ltb x y = true ↔ _
  rw [ltb, beq_iff_eq, compare?_eq_some_iff]
  exact exists_congr fun a => and_congr_right fun _ =>
    exists_congr fun b => and_congr_right fun _ => cmp_eq_lt_iff a b

/-- A number is at most another one if they can be compared and it is not the greater one. -/
theorem leb_iff : leb x y = true ↔ ∃ o, compare? x y = some o ∧ o ≠ .gt := by
  rw [leb]
  cases compare? x y with
  | none => simp
  | some o => cases o <;> simp

/-- A number is at most another if both have values and that of the one is at most that of the
other. -/
theorem le_iff : x ≤ y ↔ ∃ a, x.value? = some a ∧ ∃ b, y.value? = some b ∧ a ≤ b := by
  show leb x y = true ↔ _
  rw [leb_iff]
  constructor
  · rintro ⟨o, ho, hgt⟩
    obtain ⟨a, ha, b, hb, rfl⟩ := compare?_eq_some_iff.1 ho
    exact ⟨a, ha, b, hb, not_lt.1 (mt (cmp_eq_gt_iff a b).2 hgt)⟩
  · rintro ⟨a, ha, b, hb, hab⟩
    exact ⟨_, compare?_eq_some_iff.2 ⟨a, ha, b, hb, rfl⟩, mt (cmp_eq_gt_iff a b).1 (not_lt.2 hab)⟩

theorem lt_iff_of_value? {a : Extended} (hx : x.value? = some a) :
    x < y ↔ ∃ b, y.value? = some b ∧ a < b := by
  rw [lt_iff, hx]
  simp only [Option.some.injEq, exists_eq_left']

theorem le_iff_of_value? {a : Extended} (hx : x.value? = some a) :
    x ≤ y ↔ ∃ b, y.value? = some b ∧ a ≤ b := by
  rw [le_iff, hx]
  simp only [Option.some.injEq, exists_eq_left']

theorem finite_le_finite {a b : Bool} {m n : Nat} {e d : Int} {h : Canonical f m e}
    {h' : Canonical f n d} :
    finite a m e h ≤ finite b n d h' ↔ signed a (m * 2 ^ e) ≤ signed b (n * 2 ^ d) := by
  rw [le_iff_of_value? rfl]
  simp only [value?, Option.some.injEq, exists_eq_left', ofRat_le_ofRat]

theorem le_trans (hxy : x ≤ y) (hyz : y ≤ z) : x ≤ z := by
  obtain ⟨a, ha, b, hb, hab⟩ := le_iff.1 hxy
  obtain ⟨b', hb', c, hc, hbc⟩ := le_iff.1 hyz
  obtain rfl : b = b' := Option.some.inj (hb.symm.trans hb')
  exact le_iff.2 ⟨a, ha, c, hc, hab.trans hbc⟩

theorem lt_of_lt_of_le (hxy : x < y) (hyz : y ≤ z) : x < z := by
  obtain ⟨a, ha, b, hb, hab⟩ := lt_iff.1 hxy
  obtain ⟨b', hb', c, hc, hbc⟩ := le_iff.1 hyz
  obtain rfl : b = b' := Option.some.inj (hb.symm.trans hb')
  exact lt_iff.2 ⟨a, ha, c, hc, hab.trans_le hbc⟩

end Binary

end CancellationPolicy
