import CancellationPolicy.Proofs.Floating.Rounding

/-!
# Decimals and halfway points

Halfway between two neighbouring 32-bit numbers lies a point `h * 2 ^ g` with `h < 2 ^ 25`.  A
decimal `d * 10 ^ k` on a grid that is not finer than `2 ^ g` is such a point itself or differs from
it by more than one part in `parts`, a few close calls apart (`eq_or_closeCall`).

The quotient of `2 ^ g` and the power of ten next above it lies between two neighbouring fractions
of small denominators (`enclose`), and no other fraction of a small denominator lies between those
(`add_den_le_of_between`).  So it is enough to see, for each `g`, that the two enclosing fractions
are more than one part in `parts` away.
-/

namespace CancellationPolicy.Separation

open Binary

/-- A quotient of two naturals. -/
structure Fraction where
  /-- The numerator. -/
  num : Nat
  /-- The denominator. -/
  den : Nat
  deriving DecidableEq

/-- Two numbers count as near if they differ by at most one part in this many. -/
def parts : Nat := 2 ^ 52 - 1

/-- The halfway points between numbers have a significand below this bound. -/
def bound : Nat := 2 ^ 25

/-! ### Neighbouring fractions -/

/-- A fraction strictly between two neighbouring ones has a denominator that is at least the sum of
theirs. -/
theorem add_den_le_of_between {l r : Fraction} {n d : Nat}
    (h : r.num * l.den = l.num * r.den + 1) (hl : l.num * d < n * l.den)
    (hr : n * r.den < r.num * d) : l.den + r.den ≤ d := by
  have hleft : (l.num * d + 1) * r.den ≤ n * l.den * r.den := Nat.mul_le_mul_right _ hl
  have hright : (n * r.den + 1) * l.den ≤ r.num * d * l.den := Nat.mul_le_mul_right _ hr
  have hmul : r.num * l.den * d = (l.num * r.den + 1) * d := by rw [h]
  linarith

/-- Whether `n / d` differs from `a / b` by at most one part in `parts`. -/
def Near (a b n d : Nat) : Prop :=
  n * b * (parts - 1) ≤ d * a * parts ∧ d * a * parts ≤ n * b * (parts + 1)

instance (a b n d : Nat) : Decidable (Near a b n d) := inferInstanceAs (Decidable (_ ∧ _))

/-- Whether two neighbouring fractions enclose `a / b` so widely that neither is near to it, and no
fraction of a denominator below `bound` lies between them. -/
def encloses (a b : Nat) (l r : Fraction) : Bool :=
  r.num * l.den == l.num * r.den + 1 && decide (bound ≤ l.den + r.den) &&
    decide (l.num * b * (parts + 1) < a * l.den * parts) &&
    decide (a * r.den * parts < r.num * b * (parts - 1))

theorem not_near_of_encloses {a b n d : Nat} {l r : Fraction} (h : encloses a b l r = true)
    (hd : d < bound) (hpos : 0 < d) : ¬Near a b n d := by
  rintro ⟨hlo, hhi⟩
  simp only [encloses, Bool.and_eq_true, beq_iff_eq, decide_eq_true_eq] at h
  obtain ⟨⟨⟨hneighbours, hbound⟩, hleft⟩, hright⟩ := h
  -- a fraction that is near is strictly between the two that enclose
  have hl : l.num * d < n * l.den := by
    by_contra hle
    refine (Nat.mul_lt_mul_of_pos_left hleft hpos).not_ge ?_
    calc d * (a * l.den * parts) = d * a * parts * l.den := by ring
      _ ≤ n * b * (parts + 1) * l.den := Nat.mul_le_mul_right _ hhi
      _ = n * l.den * (b * (parts + 1)) := by ring
      _ ≤ l.num * d * (b * (parts + 1)) := Nat.mul_le_mul_right _ (Nat.not_lt.1 hle)
      _ = d * (l.num * b * (parts + 1)) := by ring
  have hr : n * r.den < r.num * d := by
    by_contra hle
    refine (Nat.mul_lt_mul_of_pos_left hright hpos).not_ge ?_
    calc d * (r.num * b * (parts - 1)) = r.num * d * (b * (parts - 1)) := by ring
      _ ≤ n * r.den * (b * (parts - 1)) := Nat.mul_le_mul_right _ (Nat.not_lt.1 hle)
      _ = n * b * (parts - 1) * r.den := by ring
      _ ≤ d * a * parts * r.den := Nat.mul_le_mul_right _ hlo
      _ = d * (a * r.den * parts) := by ring
  -- between neighbours there is none whose denominator is below the bound
  have := add_den_le_of_between hneighbours hl hr
  omega

/-- Two fractions of denominators below `bound` that are near to the same quotient are equal. -/
theorem mul_den_le_of_near {a b n d n' d' : Nat} (hb : 0 < b) (hab : a ≤ b) (hd : d < bound)
    (hd' : d' < bound) (h : Near a b n d) (h' : Near a b n' d') : n * d' ≤ n' * d := by
  by_contra hlt
  rw [Nat.not_le] at hlt
  -- the numerator of a near fraction is at most its denominator
  have hn : n' * (parts - 1) ≤ d' * parts := by
    refine Nat.le_of_mul_le_mul_right ?_ hb
    calc n' * (parts - 1) * b = n' * b * (parts - 1) := by ring
      _ ≤ d' * a * parts := h'.1
      _ ≤ d' * b * parts := Nat.mul_le_mul_right _ (Nat.mul_le_mul_left _ hab)
      _ = d' * parts * b := by ring
  have hn' : n' < bound := by
    simp only [parts, bound] at hn hd' ⊢
    omega
  have hcross : n * d' * (parts - 1) ≤ n' * d * (parts + 1) := by
    refine Nat.le_of_mul_le_mul_right ?_ hb
    calc n * d' * (parts - 1) * b = n * b * (parts - 1) * d' := by ring
      _ ≤ d * a * parts * d' := Nat.mul_le_mul_right _ h.1
      _ = d' * a * parts * d := by ring
      _ ≤ n' * b * (parts + 1) * d := Nat.mul_le_mul_right _ h'.2
      _ = n' * d * (parts + 1) * b := by ring
  have hprod : n' * d < 2 ^ 50 := by
    calc n' * d < bound * bound := Nat.mul_lt_mul'' hn' hd
      _ = 2 ^ 50 := by simp only [bound]; norm_num
  generalize n * d' = x at hlt hcross
  generalize n' * d = y at hlt hcross hprod
  simp only [parts] at hcross
  omega

theorem mul_den_eq_of_near {a b n d n' d' : Nat} (hb : 0 < b) (hab : a ≤ b) (hd : d < bound)
    (hd' : d' < bound) (h : Near a b n d) (h' : Near a b n' d') : n * d' = n' * d :=
  Nat.le_antisymm (mul_den_le_of_near hb hab hd hd' h h') (mul_den_le_of_near hb hab hd' hd h' h)

/-! ### The fractions around the powers of two -/

/-- The two fractions of denominators below `bound` next to `a / b` on either side, given the two
latest convergents of its continued fraction; `a / b` itself takes the place of the second if its
denominator is that small.  `fuel` bounds the steps of the expansion. -/
def enclose : (fuel : Nat) → Nat → Nat → Fraction → Fraction → Fraction × Fraction
  | 0, _, _, l, r => (l, r)
  | fuel + 1, a, b, l, r =>
    if b = 0 then (l, r)
    else if l.den + a / b * r.den < bound then
      enclose fuel b (a % b) r ⟨l.num + a / b * r.num, l.den + a / b * r.den⟩
    else
      let steps := (bound - 1 - l.den) / r.den
      (⟨l.num + steps * r.num, l.den + steps * r.den⟩, r)

/-- The exponent of the least power of ten that is not below `2 ^ g`. -/
def tenExponent (g : Int) : Int := -(-g * 30103 / 100000)

/-- The numerator of the quotient of `2 ^ g` and that power of ten. -/
def numerator (g : Int) : Nat := 2 ^ g.toNat * 10 ^ (-tenExponent g).toNat

/-- The denominator of that quotient. -/
def denominator (g : Int) : Nat := 2 ^ (-g).toNat * 10 ^ (tenExponent g).toNat

/-- The pairs of a significand `h` and an exponent `g` for which a decimal is near to `h * 2 ^ g`
without being equal to it. -/
def closeCalls : List (Nat × Int) := [(22841339, -108), (22841339, -107), (28874659, -50)]

/-- Whether the power of ten is the least one that is not below `2 ^ g`, with some margin. -/
def isNext (g : Int) : Bool :=
  decide (numerator g ≤ denominator g) &&
    decide (denominator g * bound < 10 * numerator g * (bound - 1))

/-- Whether a fraction is the only near one of a denominator below `bound`, and equal to the
quotient of `2 ^ g` or a close call. -/
def isOnlyNear (g : Int) (r : Fraction) : Bool :=
  decide (Near (numerator g) (denominator g) r.num r.den) && decide (0 < r.den ∧ r.den < bound) &&
    (r.num * denominator g == r.den * numerator g ||
      decide (Nat.Coprime r.num r.den) && decide (bound ≤ 2 * r.den) &&
        closeCalls.contains (r.den, g))

/-- Whether the fractions of denominators below `bound` that are near to the quotient of `2 ^ g` are
known. -/
def isSeparated (g : Int) : Bool :=
  let (l, r) := enclose 60 (numerator g) (denominator g) ⟨0, 1⟩ ⟨1, 0⟩
  encloses (numerator g) (denominator g) l r || encloses (numerator g) (denominator g) r l ||
    isOnlyNear g r

/-- The exponents of the halfway points between numbers. -/
def InRange (g : Int) : Prop := -151 ≤ g ∧ g ≤ 104

theorem isSeparated_of_inRange {g : Int} (h : InRange g) :
    isNext g = true ∧ isSeparated g = true := by
  have hall : ∀ i < 256, isNext ((i : Nat) - 151) && isSeparated ((i : Nat) - 151) := by
    decide +kernel
  obtain ⟨hlo, hhi⟩ := h
  have hg := hall (g + 151).toNat (by omega)
  rw [show (((g + 151).toNat : Nat) : Int) - 151 = g by omega, Bool.and_eq_true] at hg
  exact hg

theorem denominator_pos (g : Int) : 0 < denominator g := by
  unfold denominator
  positivity

/-- A fraction of a denominator below `bound` that is near to the quotient of `2 ^ g` is equal to it
or a close call. -/
theorem eq_or_closeCall_of_near {g : Int} {n d : Nat} (hg : InRange g) (hd : d < bound)
    (h : Near (numerator g) (denominator g) n d) :
    n * denominator g = d * numerator g ∨ (d, g) ∈ closeCalls := by
  obtain ⟨hnext, hsep⟩ := isSeparated_of_inRange hg
  simp only [isNext, Bool.and_eq_true, decide_eq_true_eq] at hnext
  have hb := denominator_pos g
  rcases Nat.eq_zero_or_pos d with rfl | hpos
  · left
    have hn : n * denominator g * (parts - 1) ≤ 0 := by simpa using h.1
    have hparts : 0 < parts - 1 := by decide
    rcases Nat.mul_eq_zero.1 (Nat.le_zero.1 hn) with hn | hn
    · rw [hn, Nat.zero_mul]
    · omega
  simp only [isSeparated, Bool.or_eq_true] at hsep
  -- two checks say that no fraction is near, the third that only one is
  rcases hsep with (hsep | hsep) | hsep
  · exact absurd h (not_near_of_encloses hsep hd hpos)
  · exact absurd h (not_near_of_encloses hsep hd hpos)
  · generalize (enclose 60 (numerator g) (denominator g) ⟨0, 1⟩ ⟨1, 0⟩).2 = r at hsep
    simp only [isOnlyNear, Bool.and_eq_true, Bool.or_eq_true, decide_eq_true_eq, beq_iff_eq,
      List.contains_iff_mem] at hsep
    obtain ⟨⟨hnear, hden, hdenbound⟩, hknown⟩ := hsep
    have heq := mul_den_eq_of_near hb hnext.1 hd hdenbound h hnear
    rcases hknown with hexact | ⟨⟨hcoprime, hlarge⟩, hclose⟩
    · left
      refine Nat.eq_of_mul_eq_mul_right hden ?_
      calc n * denominator g * r.den = n * r.den * denominator g := Nat.mul_right_comm ..
        _ = r.num * denominator g * d := by rw [heq, Nat.mul_right_comm]
        _ = d * numerator g * r.den := by rw [hexact]; ring
    · -- only one multiple of the denominator is below the bound
      right
      have hdvd : r.den ∣ d := by
        refine hcoprime.symm.dvd_of_dvd_mul_left ?_
        rw [← heq]
        exact Nat.dvd_mul_left _ _
      have hd' : d = r.den := by
        obtain ⟨t, rfl⟩ := hdvd
        have ht : t < 2 := by
          by_contra ht
          have := Nat.mul_le_mul_left r.den (Nat.not_lt.1 ht)
          omega
        have htpos := Nat.pos_of_mul_pos_left hpos
        rw [show t = 1 by omega, Nat.mul_one]
      rw [hd']
      exact hclose

/-! ### Halfway points -/

/-- The quotient of `2 ^ g` and the power of ten, cross-multiplied. -/
theorem numerator_mul_zpow (g : Int) :
    (numerator g : ℚ) * 10 ^ tenExponent g = 2 ^ g * denominator g := by
  rw [numerator, denominator]
  push_cast
  rw [two_pow_toNat g, ten_pow_toNat (tenExponent g)]
  ring

/-- A grid that is hardly finer than `2 ^ g` is not finer than the next power of ten. -/
theorem tenExponent_le {g k : Int} (hg : InRange g)
    (hgrid : (2 : ℚ) ^ g * (bound - 1 : ℕ) ≤ 10 ^ k * bound) : tenExponent g ≤ k := by
  have hnext := (isSeparated_of_inRange hg).1
  simp only [isNext, Bool.and_eq_true, decide_eq_true_eq] at hnext
  by_contra hlt
  -- a grid that is coarser by one power of ten is too coarse
  have hpow : (10 : ℚ) ^ k * 10 ≤ 10 ^ tenExponent g := by
    rw [← zpow_add_one₀ (by norm_num)]
    exact zpow_le_zpow_right₀ (by norm_num) (by omega)
  have hmargin : (denominator g : ℚ) * bound < 10 * numerator g * (bound - 1 : ℕ) := by
    exact_mod_cast hnext.2
  have hbound : (0 : ℚ) ≤ bound := Nat.cast_nonneg _
  refine (mul_lt_mul_of_pos_right hmargin (ten_zpow_pos (tenExponent g))).not_ge ?_
  calc 10 * (numerator g : ℚ) * (bound - 1 : ℕ) * 10 ^ tenExponent g
      = 10 * (numerator g * 10 ^ tenExponent g) * (bound - 1 : ℕ) := by ring
    _ = 10 * denominator g * (2 ^ g * (bound - 1 : ℕ)) := by rw [numerator_mul_zpow]; ring
    _ ≤ 10 * denominator g * (10 ^ k * bound) := mul_le_mul_of_nonneg_left hgrid (by positivity)
    _ = denominator g * bound * (10 ^ k * 10) := by ring
    _ ≤ denominator g * bound * 10 ^ tenExponent g :=
        mul_le_mul_of_nonneg_left hpow (by positivity)

/-- A decimal on a grid that is not finer than `2 ^ g` is a halfway point, differs from it by more
than one part in `parts`, or is a close call. -/
theorem eq_or_closeCall {g k : Int} {d h : Nat} (hg : InRange g) (hh : h < bound)
    (hgrid : (2 : ℚ) ^ g * (bound - 1 : ℕ) ≤ 10 ^ k * bound)
    (hnear : |(d : ℚ) * 10 ^ k - h * 2 ^ g| * parts ≤ d * 10 ^ k) :
    (d : ℚ) * 10 ^ k = h * 2 ^ g ∨ (h, g) ∈ closeCalls := by
  have hle := tenExponent_le hg hgrid
  have hpos := ten_zpow_pos (tenExponent g)
  have hb : (0 : ℚ) < denominator g := Nat.cast_pos.2 (denominator_pos g)
  obtain ⟨n, hn⟩ : ∃ n : Nat, (d : ℚ) * 10 ^ k = n * 10 ^ tenExponent g := by
    refine ⟨d * 10 ^ (k - tenExponent g).toNat, ?_⟩
    push_cast
    rw [mul_assoc, ← zpow_natCast, ← zpow_add₀ (by norm_num)]
    congr 2
    omega
  -- both numbers are counted in the power of ten and in the denominator of the quotient
  have hscale : ((n : ℚ) * 10 ^ tenExponent g - h * 2 ^ g) * denominator g =
      (n * denominator g - h * numerator g) * 10 ^ tenExponent g := by
    rw [sub_mul, sub_mul, mul_assoc (h : ℚ) (2 ^ g), mul_assoc (h : ℚ) (numerator g : ℚ),
      numerator_mul_zpow, mul_right_comm]
  rw [hn] at hnear ⊢
  have habs : |(n : ℚ) * denominator g - h * numerator g| * parts ≤ n * denominator g := by
    refine le_of_mul_le_mul_right ?_ hpos
    calc |(n : ℚ) * denominator g - h * numerator g| * parts * 10 ^ tenExponent g
        = |(n : ℚ) * 10 ^ tenExponent g - h * 2 ^ g| * parts * denominator g := by
          rw [mul_right_comm, ← abs_of_pos hpos, ← abs_mul, abs_of_pos hpos, ← hscale, abs_mul,
            abs_of_pos hb, mul_right_comm]
      _ ≤ n * 10 ^ tenExponent g * denominator g := mul_le_mul_of_nonneg_right hnear hb.le
      _ = n * denominator g * 10 ^ tenExponent g := by ring
  have hparts : ((parts - 1 : ℕ) : ℚ) = (parts : ℚ) - 1 := by
    simp only [parts]
    norm_num
  have hNear : Near (numerator g) (denominator g) n h := by
    have hparts0 : (0 : ℚ) ≤ parts := Nat.cast_nonneg _
    have hlo := (mul_le_mul_of_nonneg_right (le_abs_self _) hparts0).trans habs
    have hhi := (mul_le_mul_of_nonneg_right (neg_le_abs _) hparts0).trans habs
    constructor
    · rw [← Nat.cast_le (α := ℚ)]
      push_cast [hparts]
      linarith
    · rw [← Nat.cast_le (α := ℚ)]
      push_cast
      linarith
  refine (eq_or_closeCall_of_near hg hh hNear).imp_left fun heq => ?_
  refine mul_right_cancel₀ hb.ne' (sub_eq_zero.1 ?_)
  have heq' : (n : ℚ) * denominator g = h * numerator g := by exact_mod_cast heq
  rw [← sub_mul, hscale, heq', sub_self, zero_mul]

end CancellationPolicy.Separation
