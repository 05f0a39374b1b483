import CancellationPolicy.Proofs.Floating.Shortest

/-!
# Shortest decimals in a wider format

A number of 32 bits is a number of 64 bits too (`convert_double_eq`), but its interval is narrower
there (`finer_widened`).  A decimal that is the shortest one in the wide interval is also the
shortest one in the narrow interval if it lies in it (`Finer.firstOnGrids?_eq`).  So the shortest
decimals of both formats have one value exactly if that of 32 bits is read back in 64 bits
(`value_shortest_eq_iff`).
-/

namespace CancellationPolicy.Binary

variable {f g : Format} {tie : Tie} {m n : Nat} {e d k top : Int} {q : ℚ}

/-! ### Narrower intervals -/

/-- Whether the number `m * 2 ^ e` of the format `f` is `n * 2 ^ d` in the format `g`, and its
interval is narrower there. -/
structure Finer (f g : Format) (m : Nat) (e : Int) (n : Nat) (d : Int) : Prop where
  /-- Both are one number. -/
  value_eq : (n : ℚ) * 2 ^ d = m * 2 ^ e
  /-- The interval begins later. -/
  lower : lowerEnd f m e < lowerEnd g n d
  /-- The interval ends earlier. -/
  upper : upperEnd n d < upperEnd m e

/-- The neighbours of a number on a grid depend on its value only. -/
theorem gridFloor_eq_of_value_eq (h : (n : ℚ) * 2 ^ d = m * 2 ^ e) (k : Int) :
    gridFloor n d k = gridFloor m e k := by
  have hle {a b : Nat} (hlt : (a : ℚ) * 10 ^ k < (b + 1) * 10 ^ k) : a ≤ b := by
    have hcast : (a : ℚ) < b + 1 := lt_of_mul_lt_mul_right hlt (ten_zpow_pos k).le
    have hnat : a < b + 1 := by exact_mod_cast hcast
    omega
  apply Nat.le_antisymm
  · exact hle ((gridFloor_le n d k).trans_lt (h ▸ lt_gridFloor_add_one m e k))
  · exact hle ((gridFloor_le m e k).trans_lt (h ▸ lt_gridFloor_add_one n d k))

namespace Finer

variable (h : Finer f g m e n d) (hm : m ≠ 0) (hn : n ≠ 0)

include h hm hn

/-- What is behind the narrower interval's lower end is behind the wider one's. -/
theorem isBehind {c : Nat} (hc : isBehind g n d k c = true) : isBehind f m e k c = true := by
  rw [isBehind_iff hn] at hc
  rw [isBehind_iff hm]
  left
  rcases hc with hlt | ⟨-, heq⟩
  · exact h.lower.trans hlt
  · exact heq ▸ h.lower

omit hm hn in
/-- What is before the narrower interval's upper end is before the wider one's. -/
theorem isBefore {c : Nat} (hc : isBefore n d k c = true) : isBefore m e k c = true := by
  rw [isBefore_iff] at hc ⊢
  left
  rcases hc with hlt | ⟨-, heq⟩
  · exact hlt.trans h.upper
  · exact heq ▸ h.upper

/-- A grid without a point in the wide interval has none in the narrow one. -/
theorem onGrid?_eq_none (hnone : onGrid? f tie m e k = none) : onGrid? g tie n d k = none := by
  by_contra hsome
  obtain ⟨c, hc⟩ := Option.ne_none_iff_exists'.1 hsome
  have hfloor := gridFloor_eq_of_value_eq h.value_eq k
  refine absurd hnone (Option.isSome_iff_ne_none.1 (isSome_onGrid?_of ?_))
  rcases onGrid?_eq_some hc with ⟨hbehind, rfl⟩ | ⟨hbefore, rfl⟩
  · exact .inl (hfloor ▸ h.isBehind hm hn hbehind)
  · exact .inr (hfloor ▸ h.isBefore hbefore)

/-- A point that is taken in the wide interval is taken in the narrow one if it lies there. -/
theorem onGrid?_eq_some {c : Nat} (hc : onGrid? f tie m e k = some c)
    (hnearest : IsNearest g n d (c * 10 ^ k)) : onGrid? g tie n d k = some c := by
  have hfloor := gridFloor_eq_of_value_eq h.value_eq k
  have hbehind : Binary.isBehind g n d k c = true := (isBehind_iff hn).2 hnearest.lower
  have hbefore : Binary.isBefore n d k c = true := isBefore_iff.2 hnearest.upper
  rw [onGrid?_eq_some_iff] at hc ⊢
  rw [h.value_eq, hfloor]
  -- the other neighbour lies in the wide interval if it lies in the narrow one
  rcases hc with ⟨rfl, -, hchoice⟩ | ⟨rfl, -, hchoice⟩
  · exact .inl ⟨rfl, hbehind, fun hother => hchoice (h.isBefore hother)⟩
  · exact .inr ⟨rfl, hbefore, fun hother => hchoice (h.isBehind hm hn hother)⟩

/-- A decimal that is found in the wide interval is found in the narrow one if it lies there. -/
theorem firstOnGrids?_eq {x : Decimals} (hx : firstOnGrids? f tie m e top = some x)
    (hnearest : IsNearest g n d x.value) : firstOnGrids? g tie n d top = some x := by
  obtain ⟨i, hi, ⟨c, hc, rfl⟩, hfirst⟩ := firstOnGrids?_eq_some_iff.1 hx
  exact firstOnGrids?_eq_some_iff.2 ⟨i, hi, ⟨c, h.onGrid?_eq_some hm hn hc hnearest, rfl⟩,
    fun j hj => h.onGrid?_eq_none hm hn (hfirst j hj)⟩

end Finer

/-! ### One number, written in two ways -/

theorem mul_two_pow_zpow_sub (m : Nat) (e : Int) (j : Nat) :
    ((m * 2 ^ j : ℕ) : ℚ) * 2 ^ (e - j) = m * 2 ^ e := by
  push_cast
  rw [mul_assoc, ← zpow_natCast, ← two_zpow_add]
  congr 2
  omega

/-- Each factor of two makes a number one binary digit longer. -/
theorem log2_mul_two_pow (hm : m ≠ 0) (j : Nat) : (m * 2 ^ j).log2 = m.log2 + j := by
  induction j with
  | zero => rw [Nat.pow_zero, Nat.mul_one, Nat.add_zero]
  | succ j ih =>
    rw [Nat.pow_succ, ← Nat.mul_assoc, Nat.log2_eq_log_two,
      Nat.log_mul_base (by decide) (Nat.mul_ne_zero hm (Nat.two_pow_pos j).ne'),
      ← Nat.log2_eq_log_two, ih, Nat.add_assoc]

theorem log2_sub_log2 (hm : m ≠ 0) (e : Int) :
    ((m * Nat.pow 2 e.toNat).log2 : Int) - (Nat.pow 2 (-e).toNat).log2 = m.log2 + e := by
  rw [Nat.pow_eq, Nat.pow_eq, log2_mul_two_pow hm, Nat.log2_two_pow]
  omega

/-- The exponent of the first digit does not depend on how a number is written. -/
theorem leadingExponent_mul_two_pow (hm : m ≠ 0) (e : Int) (j : Nat) :
    leadingExponent (m * 2 ^ j * Nat.pow 2 (e - j).toNat) (Nat.pow 2 (-(e - j)).toNat) =
      leadingExponent (m * Nat.pow 2 e.toNat) (Nat.pow 2 (-e).toNat) := by
  have hpos (i : Nat) : 0 < Nat.pow 2 i := Nat.two_pow_pos i
  have hlog := log2_sub_log2 (Nat.mul_ne_zero hm (Nat.two_pow_pos j).ne') (e - j)
  rw [log2_mul_two_pow hm, show ((m.log2 + j : ℕ) : ℤ) + (e - j) = m.log2 + e by omega] at hlog
  rw [leadingExponent_eq (hpos _) hlog, leadingExponent_eq (hpos _) (log2_sub_log2 hm e),
    scaled_eq_div, scaled_eq_div, mul_two_pow_zpow_sub]

/-! ### Numbers of 32 bits in 64 bits -/

/-- How many digits the significand of a number of 32 bits gets more in 64 bits. -/
def widening (m : Nat) : Nat := 52 - m.log2

section Widening

variable (hm : m ≠ 0) (hcanonical : Canonical .single m e)

include hm hcanonical

/-- Widening gives a significand 53 binary digits, of which at least 29 are new. -/
theorem widening_spec : m.log2 + widening m = 52 ∧ 29 ≤ widening m := by
  have hlog : m.log2 < 24 := (Nat.log2_lt hm).2 hcanonical.1
  unfold widening
  omega

theorem canonical_widened : Canonical .double (m * 2 ^ widening m) (e - widening m) := by
  obtain ⟨hlog, -⟩ := widening_spec hm hcanonical
  obtain ⟨-, hmin, hmax, -⟩ := hcanonical
  simp only [Format.single] at hmin hmax
  -- the significand gets all digits that the wide format has
  have hlt : m * 2 ^ widening m < 2 ^ 53 := by
    rw [← Nat.log2_lt (Nat.mul_ne_zero hm (Nat.two_pow_pos _).ne'), log2_mul_two_pow hm]
    omega
  have hfull : 2 ^ 52 ≤ m * 2 ^ widening m := by
    rw [← Nat.le_log2 (Nat.mul_ne_zero hm (Nat.two_pow_pos _).ne'), log2_mul_two_pow hm]
    omega
  refine ⟨hlt, ?_, ?_, .inl hfull⟩
  · simp only [Format.double]
    omega
  · simp only [Format.double]
    omega

/-- The interval of a number of 32 bits is narrower in 64 bits. -/
theorem finer_widened :
    Finer .single .double m e (m * 2 ^ widening m) (e - widening m) := by
  obtain ⟨-, hlong⟩ := widening_spec hm hcanonical
  have hvalue := mul_two_pow_zpow_sub m e (widening m)
  have hsmall : (2 : ℚ) ^ (e - widening m) < 2 ^ (e - 2) :=
    zpow_lt_zpow_right₀ (by norm_num) (by omega)
  have hpos := two_zpow_pos (e - widening m - 2)
  have hquarters := hvalue
  rw [quarter_eq (e - widening m), quarter_eq e] at hquarters
  rw [quarter_eq] at hsmall
  refine ⟨hvalue, ?_, ?_⟩
  · have hwide := lowerEnd_le .single m e
    have hnarrow := le_lowerEnd .double (m * 2 ^ widening m) (e - widening m)
    linarith
  · rw [upperEnd, upperEnd]
    linarith

/-- A number of 32 bits is a number of 64 bits. -/
theorem convert_double_eq (negative : Bool) :
    (finite negative m e hcanonical).convert .double =
      finite negative (m * 2 ^ widening m) (e - widening m) (canonical_widened hm hcanonical) := by
  have hn : m * 2 ^ widening m ≠ 0 := Nat.mul_ne_zero hm (Nat.two_pow_pos _).ne'
  apply convert_eq_finite negative _ hn rfl (exact_finite ..)
  rw [← mul_two_pow_zpow_sub m e (widening m)]
  exact ⟨.inl (lowerEnd_lt_value _ _ _), .inl (value_lt_upperEnd _ _)⟩

/-- The shortest decimals of a number of 32 bits in both formats have one value exactly if that of
32 bits is read back in 64 bits. -/
theorem value_shortest_eq_iff (tie : Tie) :
    (shortest .double tie (m * 2 ^ widening m) (e - widening m)).value =
        (shortest .single tie m e).value ↔
      IsNearest .double (m * 2 ^ widening m) (e - widening m) (shortest .single tie m e).value := by
  have hn : m * 2 ^ widening m ≠ 0 := Nat.mul_ne_zero hm (Nat.two_pow_pos _).ne'
  have hfiner := finer_widened hm hcanonical
  obtain ⟨top, hleading, htop, -⟩ := exists_leadingExponent hm hcanonical
  have hleading' := (leadingExponent_mul_two_pow hm e (widening m)).trans hleading
  constructor
  · -- the decimal of 64 bits is read back, and that of 32 bits has its value
    intro heq
    rw [← heq]
    refine isNearest_shortest tie (by decide) hn (canonical_widened hm hcanonical).1 hleading' ?_
    rw [hfiner.value_eq]
    exact htop
  · -- both searches begin with the same grid, so that they end with the same decimal
    intro hnearest
    obtain ⟨x, hx⟩ := Option.isSome_iff_exists.1 (isSome_firstOnGrids? tie hm
      (ten_zpow_sub_lt (f := .single) (by decide) hcanonical.1 htop))
    rw [shortest_eq hleading, hx, Option.getD_some] at hnearest ⊢
    rw [value_strip] at hnearest
    rw [shortest_eq hleading', hfiner.firstOnGrids?_eq hm hn hx hnearest, Option.getD_some]

end Widening

end CancellationPolicy.Binary
