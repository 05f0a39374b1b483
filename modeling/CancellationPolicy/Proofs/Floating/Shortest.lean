import CancellationPolicy.Floating.Shortest
import CancellationPolicy.Proofs.Floating.Interval

/-!
# The shortest decimal lies around its number

On a grid the neighbours of a number are tried, and one that is taken lies in the interval of the
number (`isNearest_of_onGrid?`).  A grid that is finer than the interval is wide always has one
(`isSome_onGrid?_of_lt`).  So the search finds a decimal that reads back (`isNearest_shortest`), of
at most nine digits for a number of 32 bits (`suits_shortest`).
-/

namespace CancellationPolicy.Binary

variable {f : Format} {tie : Tie} {m : Nat} {e k : Int}

/-! ### Counting on a grid -/

/-- A quarter of the last place, as it is counted on the grid of step `10 ^ k`. -/
def gridQuarter (e k : Int) : Nat := Nat.pow 2 (e - 2).toNat * Nat.pow 10 (-k).toNat

/-- The step of the grid, as it is counted there. -/
def gridStep (e k : Int) : Nat := Nat.pow 10 k.toNat * Nat.pow 2 (2 - e).toNat

/-- The unit of the counts. -/
def gridUnit (e k : Int) : ℚ := 10 ^ (-k).toNat * 2 ^ (2 - e).toNat

theorem gridUnit_pos (e k : Int) : 0 < gridUnit e k := by
  unfold gridUnit
  positivity

theorem gridQuarter_eq (e k : Int) : (gridQuarter e k : ℚ) = 2 ^ (e - 2) * gridUnit e k := by
  have := two_pow_toNat (e - 2)
  rw [gridQuarter, gridUnit, Nat.pow_eq, Nat.pow_eq]
  push_cast
  rw [this, show -(e - 2) = 2 - e by omega]
  ring

theorem gridStep_eq (e k : Int) : (gridStep e k : ℚ) = 10 ^ k * gridUnit e k := by
  rw [gridStep, gridUnit, Nat.pow_eq, Nat.pow_eq]
  push_cast
  rw [ten_pow_toNat]
  ring

theorem gridStep_pos (e k : Int) : 0 < gridStep e k :=
  Nat.mul_pos (Nat.pow_pos (by decide)) (Nat.two_pow_pos _)

/-- The neighbour of a number that is not above it. -/
def gridFloor (m : Nat) (e k : Int) : Nat := 4 * m * gridQuarter e k / gridStep e k

theorem value_eq (m : Nat) (e k : Int) :
    ((4 * m * gridQuarter e k : ℕ) : ℚ) = m * 2 ^ e * gridUnit e k := by
  push_cast
  rw [gridQuarter_eq, quarter_eq e]
  ring

theorem gridFloor_le (m : Nat) (e k : Int) : (gridFloor m e k : ℚ) * 10 ^ k ≤ m * 2 ^ e := by
  refine le_of_mul_le_mul_right ?_ (gridUnit_pos e k)
  rw [mul_assoc, ← gridStep_eq, ← value_eq]
  exact_mod_cast Nat.div_mul_le_self _ _

theorem lt_gridFloor_add_one (m : Nat) (e k : Int) :
    (m : ℚ) * 2 ^ e < (gridFloor m e k + 1) * 10 ^ k := by
  refine lt_of_mul_lt_mul_right ?_ (gridUnit_pos e k).le
  rw [mul_assoc _ (10 ^ k), ← gridStep_eq, ← value_eq]
  exact_mod_cast (Nat.div_lt_iff_lt_mul (gridStep_pos e k)).1 (Nat.lt_succ_self _)

/-! ### Neighbours that read back -/

/-- The lower end, as it is counted on the grid. -/
def gridLower (f : Format) (m : Nat) (e k : Int) : Nat :=
  (if m = Nat.pow 2 (f.precision - 1) ∧ f.minExponent < e then 4 * m - 1 else 4 * m - 2) *
    gridQuarter e k

/-- The upper end, as it is counted on the grid. -/
def gridUpper (m : Nat) (e k : Int) : Nat := (4 * m + 2) * gridQuarter e k

/-- The lower end in units of the grid. -/
theorem gridLower_eq (hm : m ≠ 0) (e k : Int) :
    (gridLower f m e k : ℚ) = lowerEnd f m e * gridUnit e k := by
  rw [gridLower, Nat.cast_mul, gridQuarter_eq, lowerEnd, ← mul_assoc]
  congr 2
  split
  · rw [Nat.cast_sub (by omega)]
    push_cast
    rfl
  · rw [Nat.cast_sub (by omega)]
    push_cast
    rfl

theorem gridUpper_eq (m : Nat) (e k : Int) :
    (gridUpper m e k : ℚ) = upperEnd m e * gridUnit e k := by
  rw [gridUpper, Nat.cast_mul, gridQuarter_eq, upperEnd, ← mul_assoc]
  push_cast
  rfl

/-- Whether a point of the grid lies behind the lower end of a number, or is this end where it
counts. -/
def isBehind (f : Format) (m : Nat) (e k : Int) (d : Nat) : Bool :=
  gridLower f m e k < d * gridStep e k || (m % 2 == 0 && gridLower f m e k == d * gridStep e k)

/-- Whether a point of the grid lies before the upper end of a number, or is this end if it
counts. -/
def isBefore (m : Nat) (e k : Int) (d : Nat) : Bool :=
  d * gridStep e k < gridUpper m e k || (m % 2 == 0 && d * gridStep e k == gridUpper m e k)

theorem onGrid?_eq (f : Format) (tie : Tie) (m : Nat) (e k : Int) :
    onGrid? f tie m e k =
      match isBehind f m e k (gridFloor m e k), isBefore m e k (gridFloor m e k + 1) with
      | true, false => some (gridFloor m e k)
      | false, true => some (gridFloor m e k + 1)
      | false, false => none
      | true, true =>
        if 2 * (4 * m * gridQuarter e k % gridStep e k) < gridStep e k then some (gridFloor m e k)
        else if gridStep e k < 2 * (4 * m * gridQuarter e k % gridStep e k) then
          some (gridFloor m e k + 1)
        else match tie with
          | .up => some (gridFloor m e k + 1)
          | .even =>
            some (if gridFloor m e k % 2 = 0 then gridFloor m e k else gridFloor m e k + 1) := rfl

theorem lt_iff_mul_gridUnit {p q : ℚ} (e k : Int) :
    p * gridUnit e k < q * gridUnit e k ↔ p < q := mul_lt_mul_iff_left₀ (gridUnit_pos e k)

theorem eq_iff_mul_gridUnit {p q : ℚ} (e k : Int) :
    p * gridUnit e k = q * gridUnit e k ↔ p = q := mul_left_inj' (gridUnit_pos e k).ne'

theorem mul_gridStep_eq (d : Nat) (e k : Int) :
    ((d * gridStep e k : ℕ) : ℚ) = d * 10 ^ k * gridUnit e k := by
  rw [Nat.cast_mul, gridStep_eq, mul_assoc]

/-- The nearer of the two neighbours of a value, of which `d` is the lower one. -/
def nearer (tie : Tie) (v : ℚ) (k : Int) (d : Nat) : Nat :=
  if 2 * (v - d * 10 ^ k) < 10 ^ k then d
  else if 10 ^ k < 2 * (v - d * 10 ^ k) then d + 1
  else match tie with
    | .up => d + 1
    | .even => if d % 2 = 0 then d else d + 1

/-- The nearer grid point is one of the two around a number. -/
theorem nearer_eq_or (tie : Tie) (v : ℚ) (k : Int) (d : Nat) :
    nearer tie v k d = d ∨ nearer tie v k d = d + 1 := by
  unfold nearer
  split
  · exact .inl rfl
  · split
    · exact .inr rfl
    · cases tie with
      | up => exact .inr rfl
      | even => exact ite_eq_or_eq ..

/-- The nearer grid point is found by comparing the distance with half a step. -/
theorem some_nearer (tie : Tie) (v : ℚ) (k : Int) (d : Nat) :
    some (nearer tie v k d) =
      if 2 * (v - d * 10 ^ k) < 10 ^ k then some d
      else if 10 ^ k < 2 * (v - d * 10 ^ k) then some (d + 1)
      else match tie with
        | .up => some (d + 1)
        | .even => some (if d % 2 = 0 then d else d + 1) := by
  unfold nearer
  split
  · rfl
  · split
    · rfl
    · cases tie <;> rfl

/-- How far a number lies above its lower neighbour. -/
theorem rest_eq (m : Nat) (e k : Int) :
    ((4 * m * gridQuarter e k % gridStep e k : ℕ) : ℚ) =
      (m * 2 ^ e - gridFloor m e k * 10 ^ k) * gridUnit e k := by
  have hdivmod : ((4 * m * gridQuarter e k : ℕ) : ℚ) =
      (gridFloor m e k * gridStep e k : ℕ) + (4 * m * gridQuarter e k % gridStep e k : ℕ) := by
    rw [gridFloor]
    exact_mod_cast (Nat.div_add_mod' _ _).symm
  rw [value_eq, mul_gridStep_eq] at hdivmod
  rw [sub_mul]
  linarith

/-- The neighbour that is taken is the only one that lies in the interval, or the nearer of both. -/
theorem onGrid?_eq_nearer (f : Format) (tie : Tie) (m : Nat) (e k : Int) :
    onGrid? f tie m e k =
      match isBehind f m e k (gridFloor m e k), isBefore m e k (gridFloor m e k + 1) with
      | true, false => some (gridFloor m e k)
      | false, true => some (gridFloor m e k + 1)
      | false, false => none
      | true, true => some (nearer tie (m * 2 ^ e) k (gridFloor m e k)) := by
  -- the comparisons in units of the grid are those of the numbers
  have hstep := gridStep_eq e k
  have hrest := rest_eq m e k
  have hlow : 2 * (4 * m * gridQuarter e k % gridStep e k) < gridStep e k ↔
      2 * ((m : ℚ) * 2 ^ e - gridFloor m e k * 10 ^ k) < 10 ^ k := by
    rw [← Nat.cast_lt (α := ℚ), Nat.cast_mul, Nat.cast_ofNat, hrest, hstep, ← mul_assoc,
      lt_iff_mul_gridUnit]
  have hhigh : gridStep e k < 2 * (4 * m * gridQuarter e k % gridStep e k) ↔
      10 ^ k < 2 * ((m : ℚ) * 2 ^ e - gridFloor m e k * 10 ^ k) := by
    rw [← Nat.cast_lt (α := ℚ), Nat.cast_mul, Nat.cast_ofNat, hrest, hstep, ← mul_assoc,
      lt_iff_mul_gridUnit]
  rw [onGrid?_eq, some_nearer]
  simp only [hlow, hhigh]

/-- A neighbour is taken if it lies in the interval and is the nearer one if both do. -/
theorem onGrid?_eq_some_iff {d : Nat} : onGrid? f tie m e k = some d ↔
    d = gridFloor m e k ∧ isBehind f m e k (gridFloor m e k) = true ∧
        (isBefore m e k (gridFloor m e k + 1) = true →
          nearer tie (m * 2 ^ e) k (gridFloor m e k) = d) ∨
      d = gridFloor m e k + 1 ∧ isBefore m e k (gridFloor m e k + 1) = true ∧
        (isBehind f m e k (gridFloor m e k) = true →
          nearer tie (m * 2 ^ e) k (gridFloor m e k) = d) := by
  rw [onGrid?_eq_nearer]
  have hor := nearer_eq_or tie (m * 2 ^ e) k (gridFloor m e k)
  generalize nearer tie (m * 2 ^ e) k (gridFloor m e k) = c at hor ⊢
  generalize gridFloor m e k = n at hor ⊢
  cases isBehind f m e k n <;> cases isBefore m e k (n + 1) <;>
    simp only [reduceCtorEq, Option.some.injEq, false_imp_iff, true_imp_iff, and_true, true_and,
      and_false, false_and, or_false, false_or] <;> omega

/-- Only a neighbour that lies in the interval is taken. -/
theorem onGrid?_eq_some {d : Nat} (h : onGrid? f tie m e k = some d) :
    isBehind f m e k d = true ∧ d = gridFloor m e k ∨
      isBefore m e k d = true ∧ d = gridFloor m e k + 1 := by
  rcases onGrid?_eq_some_iff.1 h with ⟨hd, hbehind, -⟩ | ⟨hd, hbefore, -⟩
  · exact .inl ⟨hd ▸ hbehind, hd⟩
  · exact .inr ⟨hd ▸ hbefore, hd⟩

/-- There is a grid point if one of the two around the number is within the ends. -/
theorem isSome_onGrid?_of (h : isBehind f m e k (gridFloor m e k) = true ∨
    isBefore m e k (gridFloor m e k + 1) = true) : (onGrid? f tie m e k).isSome = true := by
  rw [onGrid?_eq_nearer]
  split
  · rfl
  · rfl
  · rename_i hbehind hbefore
    simp [hbehind, hbefore] at h
  · rfl

/-- A grid point is behind the lower end, or at it for an even significand. -/
theorem isBehind_iff (hm : m ≠ 0) {d : Nat} : isBehind f m e k d = true ↔
    lowerEnd f m e < d * 10 ^ k ∨ m % 2 = 0 ∧ lowerEnd f m e = d * 10 ^ k := by
  simp only [isBehind, Bool.or_eq_true, Bool.and_eq_true, decide_eq_true_eq, beq_iff_eq]
  rw [← Nat.cast_lt (α := ℚ), ← Nat.cast_inj (R := ℚ) (m := gridLower f m e k), gridLower_eq hm,
    mul_gridStep_eq, lt_iff_mul_gridUnit, eq_iff_mul_gridUnit]

/-- A grid point is before the upper end, or at it for an even significand. -/
theorem isBefore_iff {d : Nat} : isBefore m e k d = true ↔
    d * 10 ^ k < upperEnd m e ∨ m % 2 = 0 ∧ d * 10 ^ k = upperEnd m e := by
  simp only [isBefore, Bool.or_eq_true, Bool.and_eq_true, decide_eq_true_eq, beq_iff_eq]
  rw [← Nat.cast_lt (α := ℚ), ← Nat.cast_inj (R := ℚ) (n := gridUpper m e k), gridUpper_eq,
    mul_gridStep_eq, lt_iff_mul_gridUnit, eq_iff_mul_gridUnit]

/-- The decimal that is taken lies in the interval of the number, within one step of the grid. -/
theorem isNearest_of_onGrid? (hm : m ≠ 0) {d : Nat} (h : onGrid? f tie m e k = some d) :
    IsNearest f m e (d * 10 ^ k) ∧ |(d : ℚ) * 10 ^ k - m * 2 ^ e| ≤ 10 ^ k := by
  have hfloor := gridFloor_le m e k
  have hnext := lt_gridFloor_add_one m e k
  -- the point is the one below the number, or the one above
  rcases onGrid?_eq_some h with ⟨hbehind, rfl⟩ | ⟨hbefore, rfl⟩
  · refine ⟨⟨(isBehind_iff hm).1 hbehind, .inl (hfloor.trans_lt (value_lt_upperEnd m e))⟩, ?_⟩
    rw [abs_le]
    constructor <;> linarith
  · have hlt : lowerEnd f m e < (gridFloor m e k + 1 : ℕ) * 10 ^ k := by
      push_cast
      exact (lowerEnd_lt_value f m e).trans hnext
    refine ⟨⟨.inl hlt, isBefore_iff.1 hbefore⟩, ?_⟩
    push_cast
    rw [abs_le]
    constructor <;> linarith

/-- A grid that is finer than the interval is wide has a point in the interval. -/
theorem isSome_onGrid?_of_lt (hm : m ≠ 0)
    (hfine : (10 : ℚ) ^ k < upperEnd m e - lowerEnd f m e) :
    (onGrid? f tie m e k).isSome = true := by
  refine isSome_onGrid?_of ?_
  rw [isBehind_iff hm, isBefore_iff]
  rcases lt_or_ge (lowerEnd f m e) (gridFloor m e k * 10 ^ k) with hlt | hle
  · exact .inl (.inl hlt)
  · -- the neighbour above is less than a step behind the lower end
    right
    left
    push_cast
    linarith

/-- A grid that is at least as fine as half a last place has a point in the interval. -/
theorem isSome_onGrid? (hm : m ≠ 0) (hfine : (10 : ℚ) ^ k ≤ 2 ^ (e - 1)) :
    (onGrid? f tie m e k).isSome = true := by
  refine isSome_onGrid?_of_lt hm (hfine.trans_lt ?_)
  have hunit := two_zpow_pos (e - 2)
  have hlower := lowerEnd_le f m e
  rw [show e - 1 = 1 + (e - 2) by omega, two_zpow_add, zpow_one, upperEnd]
  linarith

/-! ### The first digit -/

variable {num den : Nat}

theorem ten_zpow_le_div_iff (hden : 0 < den) (k : Int) :
    den * Nat.pow 10 k.toNat ≤ num * Nat.pow 10 (-k).toNat ↔ (10 : ℚ) ^ k ≤ num / den := by
  have hpos : (0 : ℚ) < 10 ^ (-k).toNat := by positivity
  have hden' : (0 : ℚ) < den := Nat.cast_pos.2 hden
  rw [le_div_iff₀ hden', ← mul_le_mul_iff_left₀ hpos, ← Nat.cast_le (α := ℚ), Nat.pow_eq,
    Nat.pow_eq]
  push_cast
  rw [ten_pow_toNat, ← mul_assoc, mul_comm (den : ℚ)]

/-- The power of ten with an exponent, as far as a power of two reaches it: both times the natural
powers that clear the denominators. -/
theorem mul_clear_eq (a b : Int) :
    (10 : ℚ) ^ a * (2 ^ (-b).toNat * 10 ^ (-a).toNat) = (10 ^ a.toNat * 2 ^ (-b).toNat : ℕ) ∧
      (2 : ℚ) ^ b * (2 ^ (-b).toNat * 10 ^ (-a).toNat) = (2 ^ b.toNat * 10 ^ (-a).toNat : ℕ) := by
  push_cast
  rw [ten_pow_toNat a, two_pow_toNat b]
  constructor <;> ring

theorem ten_zpow_le_two_zpow {a b : Int}
    (h : 10 ^ a.toNat * 2 ^ (-b).toNat ≤ 2 ^ b.toNat * 10 ^ (-a).toNat) :
    (10 : ℚ) ^ a ≤ 2 ^ b := by
  obtain ⟨hten, htwo⟩ := mul_clear_eq a b
  refine le_of_mul_le_mul_right ?_ (show (0 : ℚ) < 2 ^ (-b).toNat * 10 ^ (-a).toNat by positivity)
  rw [hten, htwo]
  exact_mod_cast h

theorem two_zpow_le_ten_zpow {a b : Int}
    (h : 2 ^ b.toNat * 10 ^ (-a).toNat ≤ 10 ^ a.toNat * 2 ^ (-b).toNat) :
    (2 : ℚ) ^ b ≤ 10 ^ a := by
  obtain ⟨hten, htwo⟩ := mul_clear_eq a b
  refine le_of_mul_le_mul_right ?_ (show (0 : ℚ) < 2 ^ (-b).toNat * 10 ^ (-a).toNat by positivity)
  rw [hten, htwo]
  exact_mod_cast h

/-- The decimal exponent that is guessed from a binary one. -/
def guessExponent (l : Int) : Int := l * 30103 / 100000

/-- Guesses are off by little more than one place. -/
theorem guessExponent_bounds {l : Int} (hlo : -200 ≤ l) (hhi : l ≤ 200) :
    (10 : ℚ) ^ (guessExponent l - 1) ≤ 2 ^ (l - 1) ∧
      (2 : ℚ) ^ (l + 1) ≤ 10 ^ (guessExponent l + 3) := by
  have hall : ∀ i < 401, ∀ l : Int, l = (i : Nat) - 200 →
      10 ^ (guessExponent l - 1).toNat * 2 ^ (-(l - 1)).toNat ≤
          2 ^ (l - 1).toNat * 10 ^ (-(guessExponent l - 1)).toNat ∧
        2 ^ (l + 1).toNat * 10 ^ (-(guessExponent l + 3)).toNat ≤
          10 ^ (guessExponent l + 3).toNat * 2 ^ (-(l + 1)).toNat := by
    simp only [forall_eq]
    decide +kernel
  obtain ⟨hten, htwo⟩ := hall (l + 200).toNat (by omega) l (by omega)
  exact ⟨ten_zpow_le_two_zpow hten, two_zpow_le_ten_zpow htwo⟩

/-- The exponent of the first digit is the guess or next to it. -/
theorem leadingExponent_eq (hden : 0 < den) {l : Int} (hl : (num.log2 : Int) - den.log2 = l) :
    leadingExponent num den =
      if (10 : ℚ) ^ (guessExponent l + 1) ≤ num / den then guessExponent l + 1
      else if (10 : ℚ) ^ guessExponent l ≤ num / den then guessExponent l
      else guessExponent l - 1 := by
  rw [leadingExponent, hl, ← guessExponent]
  simp only [ten_zpow_le_div_iff hden, decide_eq_true_eq]

/-- The exponent of the first digit is at most one too small. -/
theorem leadingExponent_bounds (hnum : num ≠ 0) (hden : 0 < den)
    (hlo : (2 : ℚ) ^ (-150 : ℤ) ≤ num / den) (hhi : (num : ℚ) / den < 2 ^ (150 : ℤ)) :
    (10 : ℚ) ^ leadingExponent num den ≤ num / den ∧
      (num : ℚ) / den < 10 ^ (leadingExponent num den + 2) := by
  have hpos := quotient_pos hnum hden
  obtain ⟨hlog, hlog'⟩ := log_div_bounds hnum hden
  have hmin := (Int.zpow_le_iff_le_log (b := 2) (x := -150) (by norm_num) hpos).1 (by
    rwa [Nat.cast_ofNat])
  have hmax := (Int.lt_zpow_iff_log_lt (b := 2) (x := 150) (by norm_num) hpos).1 (by
    rwa [Nat.cast_ofNat])
  have hle := Int.zpow_log_le_self (b := 2) (by norm_num) hpos
  have hlt := Int.lt_zpow_succ_log_self (b := 2) (by norm_num) ((num : ℚ) / den)
  rw [Nat.cast_ofNat] at hle hlt
  -- from here on only the bounds of the quotient by powers of two matter
  generalize Int.log 2 ((num : ℚ) / den) = log at *
  generalize hl : (num.log2 : Int) - den.log2 = l at *
  obtain ⟨hten, htwo⟩ := guessExponent_bounds (l := l) (by omega) (by omega)
  rw [leadingExponent_eq hden hl]
  split
  · -- the guess is one too small
    rename_i hreached
    refine ⟨hreached, ?_⟩
    rw [show guessExponent l + 1 + 2 = guessExponent l + 3 by omega]
    exact (hlt.trans_le (two_zpow_le (by omega))).trans_le htwo
  · rename_i hmissed
    rw [not_le] at hmissed
    split
    · -- the guess is right
      rename_i hreached
      refine ⟨hreached, hmissed.trans_le ?_⟩
      exact zpow_le_zpow_right₀ (by norm_num) (by omega)
    · -- the guess is too big, but not by two
      rename_i hmissed'
      rw [not_le] at hmissed'
      refine ⟨?_, hmissed'.trans_le (zpow_le_zpow_right₀ (by norm_num) (by omega))⟩
      exact hten.trans ((two_zpow_le (by omega)).trans hle)

/-! ### The search -/

/-- The first index of a range at which there is something. -/
theorem findSome?_range_eq_some_iff {α : Type} {g : Nat → Option α} {n : Nat} {a : α} :
    (List.range n).findSome? g = some a ↔ ∃ i < n, g i = some a ∧ ∀ j < i, g j = none := by
  rw [List.findSome?_eq_some_iff, List.range_eq_range']
  constructor
  · rintro ⟨before, i, after, heq, hgi, hnone⟩
    obtain ⟨k, hk, rfl, hrest⟩ := List.range'_eq_append_iff.1 heq
    obtain ⟨hi, hpos, -⟩ := List.range'_eq_cons_iff.1 hrest.symm
    obtain rfl : i = k := by omega
    refine ⟨i, by omega, hgi, ?_⟩
    intro j hj
    exact hnone j (by simpa using hj)
  · rintro ⟨i, hi, hgi, hnone⟩
    refine ⟨List.range' 0 i, i, List.range' (i + 1) (n - i - 1), ?_, hgi, ?_⟩
    · apply List.range'_eq_append_iff.2
      refine ⟨i, hi.le, rfl, ?_⟩
      symm
      exact List.range'_eq_cons_iff.2 ⟨by omega, by omega, rfl⟩
    · intro j hj
      exact hnone j (by simpa using hj)

/-- The value of a decimal. -/
def Decimals.value (x : Decimals) : ℚ := x.digits * 10 ^ x.exponent

/-- Dropping trailing zeros keeps the value. -/
theorem value_strip (fuel : Nat) (x : Decimals) : (x.strip fuel).value = x.value := by
  induction fuel generalizing x with
  | zero => rfl
  | succ fuel ih =>
    rw [Decimals.strip]
    split
    · rename_i hzero
      -- a zero at the end is a power of ten
      have hdigits : (x.digits : ℚ) = 10 * (x.digits / 10 : ℕ) := by
        exact_mod_cast (Nat.mul_div_cancel' (Nat.dvd_of_mod_eq_zero hzero.1)).symm
      rw [ih]
      simp only [Decimals.value]
      rw [zpow_add_one₀ (by norm_num), hdigits]
      ring
    · rfl

theorem digits_strip_le (fuel : Nat) (x : Decimals) : (x.strip fuel).digits ≤ x.digits := by
  induction fuel generalizing x with
  | zero => exact Nat.le_refl _
  | succ fuel ih =>
    rw [Decimals.strip]
    split
    · exact (ih _).trans (Nat.div_le_self _ _)
    · exact Nat.le_refl _

/-- Stripping zeros leaves something of what is not zero. -/
theorem digits_strip_ne_zero (fuel : Nat) {x : Decimals} (hx : x.digits ≠ 0) :
    (x.strip fuel).digits ≠ 0 := by
  induction fuel generalizing x with
  | zero => exact hx
  | succ fuel ih =>
    rw [Decimals.strip]
    split
    · rename_i hzero
      refine ih ?_
      dsimp only
      omega
    · exact hx

/-- The decimal of a number other than zero has a digit other than zero. -/
theorem digits_shortest_ne_zero (hm : m ≠ 0) : (shortest f tie m e).digits ≠ 0 := by
  rw [shortest]
  refine digits_strip_ne_zero _ ?_
  generalize hfound : List.findSome? _ _ = found
  cases found with
  | none => exact hm
  | some x =>
    obtain ⟨i, -, hi⟩ := List.exists_of_findSome?_eq_some hfound
    obtain ⟨d, hd, rfl⟩ := Option.map_eq_some_iff.1 hi
    have hpos := (isNearest_of_onGrid? hm hd).1.pos hm
    rintro rfl
    rw [Nat.cast_zero, zero_mul] at hpos
    exact lt_irrefl _ hpos

/-- What is known of a decimal that stands for a number of 32 bits. -/
structure Decimals.Suits (x : Decimals) (m : Nat) (e : Int) : Prop where
  /-- The decimal lies in the interval of the number. -/
  isNearest : IsNearest .single m e x.value
  /-- It has at most nine digits. -/
  digits_lt : x.digits < 2 ^ 29
  /-- It lies next to the number on some grid. -/
  onGrid : ∃ (d : Nat) (k : Int), x.value = d * 10 ^ k ∧ |x.value - m * 2 ^ e| ≤ 10 ^ k

/-- A decimal next to a number has few digits on the coarsest grid that has one. -/
theorem digits_lt_of_abs_sub_le {d m : Nat} {e k : Int} (hm : m < 2 ^ 24)
    (hclose : |(d : ℚ) * 10 ^ k - m * 2 ^ e| ≤ 10 ^ k)
    (hcoarse : (m : ℚ) * 2 ^ e < 10 ^ (k + 2) ∨ (2 : ℚ) ^ (e - 1) < 10 ^ (k + 1)) : d < 2 ^ 29 := by
  have hstep := ten_zpow_pos k
  have hm' : (m : ℚ) ≤ 2 ^ 24 := by exact_mod_cast hm.le
  -- either the grid is the first one, or it is not finer than it has to be
  have hvalue : (m : ℚ) * 2 ^ e < (2 ^ 29 - 1) * 10 ^ k := by
    rcases hcoarse with hlt | hlt
    · rw [ten_zpow_add, zpow_ofNat] at hlt
      linarith
    · rw [ten_zpow_add, zpow_one] at hlt
      rw [show e = 1 + (e - 1) by omega, two_zpow_add, zpow_one]
      have := two_zpow_pos (e - 1)
      nlinarith
  have hd : (d : ℚ) * 10 ^ k < 2 ^ 29 * 10 ^ k := by
    have := le_abs_self ((d : ℚ) * 10 ^ k - m * 2 ^ e)
    linarith
  exact_mod_cast lt_of_mul_lt_mul_right hd hstep.le

/-- The exponent of the first digit of a number of 32 bits is at most one too small. -/
theorem exists_leadingExponent {m : Nat} {e : Int} (hm : m ≠ 0)
    (hcanonical : Canonical .single m e) :
    ∃ top, leadingExponent (m * Nat.pow 2 e.toNat) (Nat.pow 2 (-e).toNat) = top ∧
      (10 : ℚ) ^ top ≤ m * 2 ^ e ∧ (m : ℚ) * 2 ^ e < 10 ^ (top + 2) := by
  obtain ⟨hlt, hmin, hmax, -⟩ := hcanonical
  have hratio := scaled_eq_div m e
  have hone : (1 : ℚ) ≤ m := by exact_mod_cast Nat.pos_of_ne_zero hm
  have hm' : (m : ℚ) < 2 ^ 24 := by exact_mod_cast hlt
  -- numbers of 32 bits are within the range for which the guess has been checked
  have hbounds := leadingExponent_bounds (Nat.mul_ne_zero hm (Nat.two_pow_pos e.toNat).ne')
    (Nat.two_pow_pos (-e).toNat)
  rw [Nat.pow_eq, Nat.pow_eq] at hratio ⊢
  rw [hratio] at hbounds
  refine ⟨_, rfl, hbounds ?_ ?_⟩
  · calc (2 : ℚ) ^ (-150 : ℤ) ≤ 2 ^ e := two_zpow_le (by simp only [Format.single] at hmin; omega)
      _ ≤ m * 2 ^ e := le_mul_of_one_le_left (two_zpow_pos e).le hone
  · calc (m : ℚ) * 2 ^ e < 2 ^ 24 * 2 ^ e := mul_lt_mul_of_pos_right hm' (two_zpow_pos e)
      _ = 2 ^ (24 + e) := by rw [two_zpow_add, zpow_ofNat]
      _ ≤ 2 ^ (150 : ℤ) := two_zpow_le (by simp only [Format.single] at hmax; omega)

/-- The decimal that is found on the grids, which are tried from coarse to fine. -/
def firstOnGrids? (f : Format) (tie : Tie) (m : Nat) (e top : Int) : Option Decimals :=
  (List.range 17).findSome? fun (i : Nat) =>
    (onGrid? f tie m e (top - (i : Int))).map fun d => Decimals.mk d (top - (i : Int))

/-- The shortest decimal is found on the first grid that has a point within the ends. -/
theorem shortest_eq {top : Int}
    (htop : leadingExponent (m * Nat.pow 2 e.toNat) (Nat.pow 2 (-e).toNat) = top) :
    shortest f tie m e = ((firstOnGrids? f tie m e top).getD ⟨m, e⟩).strip 17 := by
  rw [shortest, htop, firstOnGrids?]

/-- The first grid with a point is the one before which no grid has any. -/
theorem firstOnGrids?_eq_some_iff {top : Int} {x : Decimals} :
    firstOnGrids? f tie m e top = some x ↔
      ∃ i < 17, (∃ d, onGrid? f tie m e (top - (i : Nat)) = some d ∧ ⟨d, top - (i : Nat)⟩ = x) ∧
        ∀ j < i, onGrid? f tie m e (top - (j : Nat)) = none := by
  simp only [firstOnGrids?, findSome?_range_eq_some_iff, Option.map_eq_some_iff,
    Option.map_eq_none_iff]

/-- Seventeen digits are enough for significands of 53 digits: the last grid that is tried is finer
than the interval is wide. -/
theorem ten_zpow_sub_lt (hprecision : f.precision ≤ 53) (hlt : m < 2 ^ f.precision) {top : Int}
    (htop : (10 : ℚ) ^ top ≤ m * 2 ^ e) :
    (10 : ℚ) ^ (top - 16) < upperEnd m e - lowerEnd f m e := by
  have hunit := two_zpow_pos (e - 2)
  have hten : (10 : ℚ) ^ (top - 16) * 10 ^ 16 ≤ m * (4 * 2 ^ (e - 2)) := by
    rw [← quarter_eq, ← zpow_natCast, ← ten_zpow_add]
    simpa using htop
  rw [upperEnd, lowerEnd]
  split
  · -- below a power of two the interval is less wide, but the number has one digit less
    rename_i hnarrow
    have hm : (m : ℚ) ≤ 2 ^ 52 := by
      rw [hnarrow.1, Nat.pow_eq]
      exact_mod_cast Nat.pow_le_pow_right (by decide) (by omega)
    nlinarith
  · have hm : (m : ℚ) ≤ 2 ^ 53 := by
      exact_mod_cast hlt.le.trans (Nat.pow_le_pow_right (by decide) hprecision)
    nlinarith

/-- If the finest grid has steps below the width of the interval, some grid has a point. -/
theorem isSome_firstOnGrids? (tie : Tie) {top : Int} (hm : m ≠ 0)
    (hfine : (10 : ℚ) ^ (top - 16) < upperEnd m e - lowerEnd f m e) :
    (firstOnGrids? f tie m e top).isSome = true := by
  rw [firstOnGrids?, List.findSome?_isSome_iff]
  refine ⟨16, List.mem_range.2 (by decide), ?_⟩
  rw [Option.isSome_map]
  exact isSome_onGrid?_of_lt hm hfine

/-- The decimal of a number with a significand of up to 53 digits reads back. -/
theorem isNearest_shortest (tie : Tie) (hprecision : f.precision ≤ 53) (hm : m ≠ 0)
    (hlt : m < 2 ^ f.precision) {top : Int}
    (hleading : leadingExponent (m * Nat.pow 2 e.toNat) (Nat.pow 2 (-e).toNat) = top)
    (htop : (10 : ℚ) ^ top ≤ m * 2 ^ e) : IsNearest f m e (shortest f tie m e).value := by
  obtain ⟨x, hx⟩ := Option.isSome_iff_exists.1
    (isSome_firstOnGrids? tie hm (ten_zpow_sub_lt hprecision hlt htop))
  obtain ⟨i, -, ⟨d, hd, rfl⟩, -⟩ := firstOnGrids?_eq_some_iff.1 hx
  rw [shortest_eq hleading, hx, Option.getD_some, value_strip]
  exact (isNearest_of_onGrid? hm hd).1

/-- The decimal of a number of 32 bits suits it. -/
theorem suits_shortest (tie : Tie) {m : Nat} {e : Int} (hm : m ≠ 0)
    (hcanonical : Canonical .single m e) : (shortest .single tie m e).Suits m e := by
  obtain ⟨top, hleading, htop, htop'⟩ := exists_leadingExponent hm hcanonical
  have hlt : m < 2 ^ 24 := hcanonical.1
  obtain ⟨x, hx⟩ := Option.isSome_iff_exists.1
    (isSome_firstOnGrids? tie hm (ten_zpow_sub_lt (f := .single) (by decide) hlt htop))
  obtain ⟨i, -, ⟨d, hd, rfl⟩, hfirst⟩ := firstOnGrids?_eq_some_iff.1 hx
  obtain ⟨hnearest, hclose⟩ := isNearest_of_onGrid? hm hd
  have hcoarse : (m : ℚ) * 2 ^ e < 10 ^ (top - (i : Int) + 2) ∨
      (2 : ℚ) ^ (e - 1) < 10 ^ (top - (i : Int) + 1) := by
    rcases Nat.eq_zero_or_eq_succ_pred i with rfl | hi
    · left
      simpa using htop'
    · -- the grid before has no point, so it is not fine enough
      right
      rw [← not_le]
      intro hfine
      have hnone := hfirst i.pred (by omega)
      rw [show top - (i : Int) + 1 = top - (i.pred : Int) by omega] at hfine
      exact absurd hnone (Option.isSome_iff_ne_none.1 (isSome_onGrid? hm hfine))
  rw [shortest_eq hleading, hx, Option.getD_some]
  have hvalue := value_strip 17 ⟨d, top - (i : Int)⟩
  refine ⟨?_, ?_, d, top - (i : Int), hvalue, ?_⟩
  · rw [hvalue]
    exact hnearest
  · exact (digits_strip_le _ _).trans_lt (digits_lt_of_abs_sub_le hlt hclose hcoarse)
  · rw [hvalue]
    exact hclose

end CancellationPolicy.Binary
