import CancellationPolicy.Proofs.Floating.Order
import CancellationPolicy.Proofs.Numeric.Nearest
import Mathlib.Data.Int.Log
import Mathlib.Data.Rat.Floor

/-!
# Rounding keeps the order

The last place of a quotient is a matter of its binary logarithm (`placeOf_eq`), and the quotient is
rounded to a multiple of that place (`rounded`).  From some multiple on there is no finite number
left, and the result is infinite (`value?_round`).

Greater quotients are not rounded to lesser numbers (`round_le_round`).  For quotients with the same
last place that is `divNearest_mono`.  If the last places differ, a power of two lies between the
two multiples.
-/

namespace CancellationPolicy.Binary

open Extended

/-- A format that has numbers of full length. -/
class Format.Proper (f : Format) : Prop where
  /-- A significand has at least one digit. -/
  precision_pos : 0 < f.precision
  /-- There is an exponent in range. -/
  min_le_max : f.minExponent ≤ f.maxExponent

instance : Format.Proper .single := ⟨by decide, by decide⟩

instance : Format.Proper .double := ⟨by decide, by decide⟩

theorem two_zpow_le {d e : Int} (h : d ≤ e) : (2 : ℚ) ^ d ≤ 2 ^ e :=
  zpow_le_zpow_right₀ (by norm_num) h

theorem two_zpow_add (d e : Int) : (2 : ℚ) ^ (d + e) = 2 ^ d * 2 ^ e :=
  zpow_add₀ (by norm_num) d e

theorem ten_zpow_pos (k : Int) : (0 : ℚ) < 10 ^ k := zpow_pos (by norm_num) k

theorem ten_zpow_add (j k : Int) : (10 : ℚ) ^ (j + k) = 10 ^ j * 10 ^ k :=
  zpow_add₀ (by norm_num) j k

variable {f : Format} {num den num' den' : Nat}

/-! ### Counting in units -/

/-- Both parts of an exponent are natural powers. -/
theorem two_pow_toNat (e : Int) : (2 : ℚ) ^ e.toNat = 2 ^ e * 2 ^ (-e).toNat := by
  rw [← zpow_natCast, ← zpow_natCast, ← two_zpow_add]
  congr 1
  omega

theorem ten_pow_toNat (k : Int) : (10 : ℚ) ^ k.toNat = 10 ^ k * 10 ^ (-k).toNat := by
  rw [← zpow_natCast, ← zpow_natCast, ← ten_zpow_add]
  congr 1
  omega

theorem units_eq (k den : Nat) (e : Int) :
    ((k * (den * 2 ^ e.toNat) : ℕ) : ℚ) = k * 2 ^ e * den * 2 ^ (-e).toNat := by
  push_cast
  rw [two_pow_toNat e]
  ring

/-- A quotient is at most a number of units, without fractions. -/
theorem mul_two_pow_le_iff (hden : 0 < den) (k : Nat) (e : Int) :
    num * 2 ^ (-e).toNat ≤ k * (den * 2 ^ e.toNat) ↔ (num : ℚ) / den ≤ k * 2 ^ e := by
  have hpos : (0 : ℚ) < 2 ^ (-e).toNat := by positivity
  rw [div_le_iff₀ (Nat.cast_pos.2 hden), ← Nat.cast_le (α := ℚ), units_eq, Nat.cast_mul,
    Nat.cast_pow, Nat.cast_ofNat, mul_le_mul_iff_left₀ hpos]

theorem le_mul_two_pow_iff (hden : 0 < den) (k : Nat) (e : Int) :
    k * (den * 2 ^ e.toNat) ≤ num * 2 ^ (-e).toNat ↔ (k : ℚ) * 2 ^ e ≤ num / den := by
  have hpos : (0 : ℚ) < 2 ^ (-e).toNat := by positivity
  rw [le_div_iff₀ (Nat.cast_pos.2 hden), ← Nat.cast_le (α := ℚ), units_eq, Nat.cast_mul,
    Nat.cast_pow, Nat.cast_ofNat, mul_le_mul_iff_left₀ hpos]

theorem unitsNearest_le (hden : 0 < den) {k : Nat} {e : Int} (h : (num : ℚ) / den ≤ k * 2 ^ e) :
    unitsNearest num den e ≤ k :=
  divNearest_le (Nat.mul_pos hden (Nat.two_pow_pos _)) ((mul_two_pow_le_iff hden k e).2 h)

theorem le_unitsNearest (hden : 0 < den) {k : Nat} {e : Int} (h : (k : ℚ) * 2 ^ e ≤ num / den) :
    k ≤ unitsNearest num den e :=
  le_divNearest (Nat.mul_pos hden (Nat.two_pow_pos _)) ((le_mul_two_pow_iff hden k e).2 h)

theorem unitsNearest_mono (hden : 0 < den) (hden' : 0 < den') (h : num * den' ≤ num' * den)
    (e : Int) : unitsNearest num den e ≤ unitsNearest num' den' e := by
  refine divNearest_mono (Nat.mul_pos hden (Nat.two_pow_pos _))
    (Nat.mul_pos hden' (Nat.two_pow_pos _)) ?_
  calc num * Nat.pow 2 (-e).toNat * (den' * Nat.pow 2 e.toNat)
      = num * den' * (Nat.pow 2 (-e).toNat * Nat.pow 2 e.toNat) := Nat.mul_mul_mul_comm ..
    _ ≤ num' * den * (Nat.pow 2 (-e).toNat * Nat.pow 2 e.toNat) := Nat.mul_le_mul_right _ h
    _ = num' * Nat.pow 2 (-e).toNat * (den * Nat.pow 2 e.toNat) := (Nat.mul_mul_mul_comm ..).symm

/-! ### The last place -/

theorem quotient_pos (hnum : num ≠ 0) (hden : 0 < den) : (0 : ℚ) < num / den :=
  div_pos (by exact_mod_cast Nat.pos_of_ne_zero hnum) (by exact_mod_cast hden)

/-- The binary logarithm of a quotient is the difference of those of its parts, or one less. -/
theorem log_div_bounds (hnum : num ≠ 0) (hden : 0 < den) :
    (num.log2 : Int) - den.log2 - 1 ≤ Int.log 2 ((num : ℚ) / den) ∧
      Int.log 2 ((num : ℚ) / den) < (num.log2 : Int) - den.log2 + 1 := by
  have hden' : (0 : ℚ) < den := by exact_mod_cast hden
  -- numerator and denominator are each between two powers of two
  have hnum_le : (2 : ℚ) ^ (num.log2 : Int) ≤ num := by
    exact_mod_cast Nat.log2_self_le hnum
  have hnum_lt : (num : ℚ) < 2 ^ ((num.log2 : Int) + 1) := by
    exact_mod_cast Nat.lt_log2_self
  have hden_le : (2 : ℚ) ^ (den.log2 : Int) ≤ den := by
    exact_mod_cast Nat.log2_self_le hden.ne'
  have hden_lt : (den : ℚ) < 2 ^ ((den.log2 : Int) + 1) := by
    exact_mod_cast Nat.lt_log2_self
  have hpos := quotient_pos hnum hden
  rw [← Int.zpow_le_iff_le_log (by norm_num) hpos, ← Int.lt_zpow_iff_log_lt (by norm_num) hpos]
  constructor
  · rw [le_div_iff₀ hden']
    calc (2 : ℚ) ^ ((num.log2 : Int) - den.log2 - 1) * den
        ≤ 2 ^ ((num.log2 : Int) - den.log2 - 1) * 2 ^ ((den.log2 : Int) + 1) :=
          mul_le_mul_of_nonneg_left hden_lt.le (two_zpow_pos _).le
      _ = 2 ^ (num.log2 : Int) := by rw [← two_zpow_add]; congr 1; ring
      _ ≤ num := hnum_le
  · rw [div_lt_iff₀ hden']
    calc (num : ℚ) < 2 ^ ((num.log2 : Int) + 1) := hnum_lt
      _ = 2 ^ ((num.log2 : Int) - den.log2 + 1) * 2 ^ (den.log2 : Int) := by
          rw [← two_zpow_add]; congr 1; ring
      _ ≤ 2 ^ ((num.log2 : Int) - den.log2 + 1) * den :=
          mul_le_mul_of_nonneg_left hden_le (two_zpow_pos _).le

theorem placeOf_eq [f.Proper] (hnum : num ≠ 0) (hden : 0 < den) :
    placeOf f num den = max f.minExponent (Int.log 2 ((num : ℚ) / den) - f.precision + 1) := by
  have hp := Format.Proper.precision_pos (f := f)
  have hpos := quotient_pos hnum hden
  obtain ⟨hle, hlt⟩ := log_div_bounds hnum hden
  rw [placeOf]
  generalize he : (num.log2 : Int) - den.log2 - f.precision + 1 = e
  -- the quotient is short of the first candidate if its logarithm is the lesser of the two
  have hshort : num * 2 ^ (-e).toNat < 2 ^ (f.precision - 1) * (den * 2 ^ e.toNat) ↔
      Int.log 2 ((num : ℚ) / den) < (num.log2 : Int) - den.log2 := by
    have hpow : (2 : ℚ) ^ ((num.log2 : Int) - den.log2) =
        ((2 ^ (f.precision - 1) : ℕ) : ℚ) * 2 ^ e := by
      rw [Nat.cast_pow, Nat.cast_ofNat, ← zpow_natCast, ← two_zpow_add]
      congr 1
      omega
    rw [← Int.lt_zpow_iff_log_lt (by norm_num) hpos, Nat.cast_ofNat, hpow, ← Nat.not_le,
      le_mul_two_pow_iff hden, not_le]
  simp only [Nat.pow_eq, hshort]
  split <;> omega

/-- A quotient has no more digits in front of its last place than a significand. -/
theorem div_lt_placeOf [f.Proper] (hnum : num ≠ 0) (hden : 0 < den) :
    (num : ℚ) / den < 2 ^ (placeOf f num den + f.precision) := by
  have hlt := Int.lt_zpow_succ_log_self (b := 2) (by norm_num) ((num : ℚ) / den)
  rw [Nat.cast_ofNat] at hlt
  rw [placeOf_eq hnum hden]
  exact hlt.trans_le (two_zpow_le (by omega))

/-- A quotient whose last place is not the least one has full length. -/
theorem placeOf_le_div [f.Proper] (hnum : num ≠ 0) (hden : 0 < den)
    (h : placeOf f num den ≠ f.minExponent) :
    (2 : ℚ) ^ (placeOf f num den + f.precision - 1) ≤ num / den := by
  have hle := Int.zpow_log_le_self (b := 2) (by norm_num) (quotient_pos hnum hden)
  rw [Nat.cast_ofNat] at hle
  rw [placeOf_eq hnum hden] at h ⊢
  exact (two_zpow_le (by omega)).trans hle

theorem minExponent_le_placeOf (f : Format) (num den : Nat) :
    f.minExponent ≤ placeOf f num den := le_max_left _ _

theorem placeOf_mono [f.Proper] (hnum : num ≠ 0) (hnum' : num' ≠ 0) (hden : 0 < den)
    (hden' : 0 < den') (h : (num : ℚ) / den ≤ num' / den') :
    placeOf f num den ≤ placeOf f num' den' := by
  have hlog := Int.log_mono_right (b := 2) (quotient_pos hnum hden) h
  rw [placeOf_eq hnum hden, placeOf_eq hnum' hden']
  omega

/-! ### The rounded quotient -/

/-- A significand that is too long by one is twice as long as the least of full length. -/
theorem two_pow_mul_two_zpow [f.Proper] (e : Int) :
    ((2 ^ f.precision : ℕ) : ℚ) * 2 ^ e = (2 ^ (f.precision - 1) : ℕ) * 2 ^ (e + 1) := by
  have hp := Format.Proper.precision_pos (f := f)
  obtain ⟨n, hn⟩ := Nat.exists_eq_add_of_lt hp
  rw [hn, two_zpow_add, zpow_one, zero_add, Nat.add_sub_cancel, pow_succ]
  push_cast
  ring

/-- The multiple of its last place that is nearest to a quotient. -/
def rounded (f : Format) (num den : Nat) : ℚ :=
  unitsNearest num den (placeOf f num den) * 2 ^ placeOf f num den

theorem rounded_nonneg (f : Format) (num den : Nat) : 0 ≤ rounded f num den :=
  mul_nonneg (Nat.cast_nonneg _) (two_zpow_pos _).le

theorem rounded_zero (f : Format) (den : Nat) : rounded f 0 den = 0 := by
  simp [rounded, unitsNearest, divNearest]

/-- In its last place, a quotient counts at most as many units as the precision allows. -/
theorem unitsNearest_le_two_pow [f.Proper] (hnum : num ≠ 0) (hden : 0 < den) :
    unitsNearest num den (placeOf f num den) ≤ 2 ^ f.precision := by
  refine unitsNearest_le hden ?_
  rw [Nat.cast_pow, Nat.cast_ofNat, ← zpow_natCast, ← two_zpow_add, add_comm]
  exact (div_lt_placeOf hnum hden).le

/-- Above the least place, a quotient has the full precision. -/
theorem two_pow_le_unitsNearest [f.Proper] (hnum : num ≠ 0) (hden : 0 < den)
    (h : placeOf f num den ≠ f.minExponent) :
    2 ^ (f.precision - 1) ≤ unitsNearest num den (placeOf f num den) := by
  have hp := Format.Proper.precision_pos (f := f)
  refine le_unitsNearest hden ((le_of_eq ?_).trans (placeOf_le_div hnum hden h))
  rw [Nat.cast_pow, Nat.cast_ofNat, ← zpow_natCast, ← two_zpow_add]
  congr 1
  omega

/-- Rounding keeps the order. -/
theorem rounded_mono [f.Proper] (hden : 0 < den) (hden' : 0 < den')
    (h : (num : ℚ) / den ≤ num' / den') : rounded f num den ≤ rounded f num' den' := by
  have hcross : num * den' ≤ num' * den := by
    rw [div_le_div_iff₀ (by exact_mod_cast hden) (by exact_mod_cast hden')] at h
    exact_mod_cast h
  rcases Nat.eq_zero_or_pos num with rfl | hpos
  · rw [rounded_zero]
    exact rounded_nonneg f num' den'
  have hnum : num ≠ 0 := hpos.ne'
  have hnum' : num' ≠ 0 := by
    rintro rfl
    rw [Nat.zero_mul] at hcross
    exact absurd (Nat.mul_pos hpos hden') (Nat.not_lt.2 hcross)
  rw [rounded, rounded]
  rcases (placeOf_mono (f := f) hnum hnum' hden hden' h).lt_or_eq with hlt | heq
  · -- the power of two at which the lesser place ends lies between the multiples
    have hmin := minExponent_le_placeOf f num den
    have hunits : ((2 ^ (f.precision - 1) : ℕ) : ℚ) ≤ _ :=
      Nat.cast_le.2 (two_pow_le_unitsNearest hnum' hden' (by omega))
    have hunits' : _ ≤ ((2 ^ f.precision : ℕ) : ℚ) :=
      Nat.cast_le.2 (unitsNearest_le_two_pow hnum hden)
    calc (unitsNearest num den (placeOf f num den) : ℚ) * 2 ^ placeOf f num den
        ≤ (2 ^ f.precision : ℕ) * 2 ^ placeOf f num den :=
          mul_le_mul_of_nonneg_right hunits' (two_zpow_pos _).le
      _ = (2 ^ (f.precision - 1) : ℕ) * 2 ^ (placeOf f num den + 1) := two_pow_mul_two_zpow _
      _ ≤ (2 ^ (f.precision - 1) : ℕ) * 2 ^ placeOf f num' den' :=
          mul_le_mul_of_nonneg_left (two_zpow_le hlt) (Nat.cast_nonneg _)
      _ ≤ unitsNearest num' den' (placeOf f num' den') * 2 ^ placeOf f num' den' :=
          mul_le_mul_of_nonneg_right hunits (two_zpow_pos _).le
  · rw [heq]
    exact mul_le_mul_of_nonneg_right (Nat.cast_le.2 (unitsNearest_mono hden hden' hcross _))
      (two_zpow_pos _).le

/-! ### Numbers -/

/-- The value of a rounded quotient: infinite behind the numbers of the greatest exponent. -/
def limited (f : Format) (negative : Bool) (q : ℚ) : Extended :=
  if q < (2 ^ f.precision : ℕ) * 2 ^ f.maxExponent then ofRat (signed negative q)
  else endOf negative

theorem limited_zero (f : Format) (negative : Bool) : limited f negative 0 = 0 := by
  have hpos : (0 : ℚ) < (2 ^ f.precision : ℕ) * 2 ^ f.maxExponent :=
    mul_pos (Nat.cast_pos.2 (Nat.two_pow_pos _)) (two_zpow_pos _)
  have hsigned : signed negative 0 = 0 := by cases negative <;> simp [signed]
  rw [limited, if_pos hpos, hsigned, ofRat_zero]

theorem limited_mono {p q : ℚ} (h : p ≤ q) : limited f false p ≤ limited f false q := by
  rw [limited, limited]
  split
  · split
    · exact ofRat_le_ofRat.2 h
    · exact le_top
  · rename_i hp
    rw [if_neg fun hq => hp (h.trans_lt hq)]

theorem zero_le_limited {q : ℚ} (h : 0 ≤ q) : 0 ≤ limited f false q := by
  rw [← limited_zero f false]
  exact limited_mono h

theorem value?_ofParts [f.Proper] (negative : Bool) {m : Nat} {e : Int} (hm : m < 2 ^ f.precision)
    (he : f.minExponent ≤ e) (hfull : e ≠ f.minExponent → 2 ^ (f.precision - 1) ≤ m) :
    (ofParts f negative m e).value? = some (limited f negative (m * 2 ^ e)) := by
  rw [ofParts, limited]
  by_cases hmax : e ≤ f.maxExponent
  · have hcanonical : Canonical f m e :=
      ⟨hm, he, hmax, (Classical.em _).symm.imp_left hfull⟩
    have hlt : (m : ℚ) * 2 ^ e < (2 ^ f.precision : ℕ) * 2 ^ f.maxExponent :=
      (mul_lt_mul_of_pos_right (Nat.cast_lt.2 hm) (two_zpow_pos e)).trans_le
        (mul_le_mul_of_nonneg_left (two_zpow_le hmax) (Nat.cast_nonneg _))
    rw [dif_pos hcanonical, if_pos hlt]
    rfl
  · -- behind the greatest exponent a significand has full length, so the value is out of range too
    have hnot : ¬Canonical f m e := fun h => hmax h.2.2.1
    have hmin := Format.Proper.min_le_max (f := f)
    have hge : ((2 ^ f.precision : ℕ) : ℚ) * 2 ^ f.maxExponent ≤ m * 2 ^ e := by
      rw [two_pow_mul_two_zpow]
      have hm : ((2 ^ (f.precision - 1) : ℕ) : ℚ) ≤ m := Nat.cast_le.2 (hfull (by omega))
      calc ((2 ^ (f.precision - 1) : ℕ) : ℚ) * 2 ^ (f.maxExponent + 1)
          ≤ (2 ^ (f.precision - 1) : ℕ) * 2 ^ e :=
            mul_le_mul_of_nonneg_left (two_zpow_le (by omega)) (Nat.cast_nonneg _)
        _ ≤ m * 2 ^ e := mul_le_mul_of_nonneg_right hm (two_zpow_pos _).le
    rw [dif_neg hnot, if_neg (not_lt.2 hge)]
    rfl

/-- A rounded quotient has the value of its nearest multiple, limited to the range. -/
theorem value?_round [f.Proper] (negative : Bool) (hden : 0 < den) :
    (round f negative num den).value? = some (limited f negative (rounded f num den)) := by
  have hp := Format.Proper.precision_pos (f := f)
  have hlt : 2 ^ (f.precision - 1) < 2 ^ f.precision := Nat.pow_lt_pow_right (by omega) (by omega)
  rw [round]
  split
  · rename_i hnum
    subst hnum
    rw [zero, value?_ofParts negative (Nat.two_pow_pos _) le_rfl (fun h => absurd rfl h),
      rounded_zero, Nat.cast_zero, zero_mul]
  · rename_i hnum
    have hmin := minExponent_le_placeOf f num den
    dsimp only
    split
    -- the units have run over to the next power of two, which has the same value in the next place
    · rename_i hunits
      rw [Nat.pow_eq] at hunits
      rw [Nat.pow_eq, value?_ofParts negative hlt (by omega) (fun _ => le_rfl), rounded, hunits,
        two_pow_mul_two_zpow]
    · rename_i hunits
      rw [Nat.pow_eq] at hunits
      rw [value?_ofParts negative (lt_of_le_of_ne (unitsNearest_le_two_pow hnum hden) hunits) hmin
        (two_pow_le_unitsNearest hnum hden), rounded]

/-- Greater quotients are not rounded to lesser numbers. -/
theorem round_le_round [f.Proper] (hden : 0 < den) (hden' : 0 < den')
    (h : (num : ℚ) / den ≤ num' / den') : round f false num den ≤ round f false num' den' :=
  le_iff.2 ⟨_, value?_round false hden, _, value?_round false hden',
    limited_mono (rounded_mono hden hden' h)⟩

end CancellationPolicy.Binary
