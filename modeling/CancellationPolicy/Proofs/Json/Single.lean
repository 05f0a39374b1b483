import CancellationPolicy.Proofs.Json.Layout
import CancellationPolicy.Proofs.Json.Scaling

/-!
# The shortest decimal reads back

The shortest decimal of a 32-bit number lies in the interval of the number.  The 64-bit number that
is read for it differs from it by one part in `Separation.parts` at most, which does not lead out of
the interval: a decimal near to an end of the interval is the end itself
(`eq_or_closeCall_of_halfway`), and an end is read exactly.  The numbers with a close call are tried
one by one (`closeNumbers`).  So the number is read back (`convert_assemble?`).
-/

namespace CancellationPolicy.Json.Numeral

open Binary Separation

/-! ### The ends of an interval -/

/-- Whether `h * 2 ^ g` is half way between the number `m * 2 ^ e` and one next to it. -/
structure Halfway (m : Nat) (e : Int) (h : Nat) (g : Int) : Prop where
  /-- The exponent is one of a halfway point. -/
  inRange : InRange g
  /-- The significand is one of a halfway point. -/
  lt : h < bound
  /-- The distance to the number. -/
  distance : |(m : ℚ) * 2 ^ e - h * 2 ^ g| = 2 ^ g
  /-- The number has few digits, counted in that distance. -/
  size : (m : ℚ) * 2 ^ e ≤ 2 ^ 25 * 2 ^ g

variable {m h : Nat} {e g k : Int} {q v : ℚ}

theorem two_zpow_eq (e : Int) : (2 : ℚ) ^ e = 2 * 2 ^ (e - 1) := by
  rw [← zpow_one_add₀ (by norm_num)]
  congr 1
  omega

/-- The upper end of a number is half way to the next one. -/
theorem halfway_upper (hcanonical : Canonical .single m e) :
    Halfway m e (2 * m + 1) (e - 1) ∧ upperEnd m e = (2 * m + 1 : ℕ) * 2 ^ (e - 1) := by
  obtain ⟨hlt, hmin, hmax, -⟩ := hcanonical
  have hlt' : m < 2 ^ 24 := hlt
  have hm : (m : ℚ) < 2 ^ 24 := by exact_mod_cast hlt'
  have hunit := two_zpow_pos (e - 1)
  have hdistance : (m : ℚ) * (2 * 2 ^ (e - 1)) - (2 * m + 1 : ℕ) * 2 ^ (e - 1) = -2 ^ (e - 1) := by
    push_cast
    ring
  simp only [Format.single] at hmin hmax
  refine ⟨⟨⟨by omega, by omega⟩, by simp only [bound]; omega, ?_, ?_⟩, ?_⟩
  · rw [two_zpow_eq e, hdistance, abs_neg, abs_of_pos hunit]
  · rw [two_zpow_eq e]
    nlinarith
  · rw [upperEnd, two_zpow_eq (e - 1), sub_sub, one_add_one_eq_two]
    push_cast
    ring

/-- The lower end of a number is half way to the one before it. -/
theorem halfway_lower (hcanonical : Canonical .single m e) (hm : m ≠ 0) :
    ∃ h g, Halfway m e h g ∧ lowerEnd .single m e = h * 2 ^ g ∧
      (h = 2 * m - 1 ∧ g = e - 1 ∨ h = 2 ^ 25 - 1) := by
  obtain ⟨hlt, hmin, hmax, -⟩ := hcanonical
  have hlt' : m < 2 ^ 24 := hlt
  have hm' : (m : ℚ) < 2 ^ 24 := by exact_mod_cast hlt'
  simp only [Format.single] at hmin hmax
  -- below a power of two the numbers are twice as dense
  by_cases hnarrow : m = Nat.pow 2 (Format.single.precision - 1) ∧ Format.single.minExponent < e
  · have hm23 : m = 2 ^ 23 := hnarrow.1
    have hmin' : -149 < e := hnarrow.2
    have hunit := two_zpow_pos (e - 2)
    have hcast : ((2 ^ 25 - 1 : ℕ) : ℚ) = 4 * m - 1 := by
      rw [hm23]
      norm_num
    have hdistance : (m : ℚ) * (4 * 2 ^ (e - 2)) - (4 * m - 1) * 2 ^ (e - 2) = 2 ^ (e - 2) := by
      ring
    refine ⟨2 ^ 25 - 1, e - 2, ⟨⟨by omega, by omega⟩, by decide, ?_, ?_⟩, ?_, .inr rfl⟩
    · rw [hcast, quarter_eq e, hdistance, abs_of_pos hunit]
    · rw [quarter_eq e, hm23]
      push_cast
      linarith
    · rw [lowerEnd, if_pos hnarrow, hcast]
  · have hunit := two_zpow_pos (e - 1)
    have hcast : ((2 * m - 1 : ℕ) : ℚ) = 2 * m - 1 := by
      rw [Nat.cast_sub (by omega)]
      push_cast
      rfl
    have hdistance : (m : ℚ) * (2 * 2 ^ (e - 1)) - (2 * m - 1) * 2 ^ (e - 1) = 2 ^ (e - 1) := by
      ring
    refine ⟨2 * m - 1, e - 1, ⟨⟨by omega, by omega⟩, by simp only [bound]; omega, ?_, ?_⟩, ?_,
      .inl ⟨rfl, rfl⟩⟩
    · rw [hcast, two_zpow_eq e, hdistance, abs_of_pos hunit]
    · rw [two_zpow_eq e]
      nlinarith
    · rw [lowerEnd, if_neg hnarrow, two_zpow_eq (e - 1), sub_sub, one_add_one_eq_two, hcast]
      ring

/-- A decimal next to a number that is near to an end of its interval is the end itself, or a close
call. -/
theorem eq_or_closeCall_of_halfway {d : Nat} (hhalf : Halfway m e h g)
    (hgrid : |(d : ℚ) * 10 ^ k - m * 2 ^ e| ≤ 10 ^ k)
    (hnear : |(d : ℚ) * 10 ^ k - h * 2 ^ g| * parts ≤ d * 10 ^ k) :
    (d : ℚ) * 10 ^ k = h * 2 ^ g ∨ (h, g) ∈ closeCalls := by
  refine eq_or_closeCall hhalf.inRange hhalf.lt ?_ hnear
  have hdistance := hhalf.distance
  have hsize := hhalf.size
  have hunit := two_zpow_pos g
  generalize (d : ℚ) * 10 ^ k = q at hgrid hnear
  generalize (m : ℚ) * 2 ^ e = x at hgrid hdistance hsize
  generalize (h : ℚ) * 2 ^ g = y at hnear hdistance
  -- the number is one step from the end, and the decimal is much closer to it
  have htriangle : |x - y| ≤ |q - x| + |q - y| := by
    rw [abs_sub_comm q x]
    exact abs_sub_le x q y
  have hy : y ≤ x + |x - y| := by have := neg_abs_le (x - y); linarith
  have hq : q ≤ y + |q - y| := by have := le_abs_self (q - y); linarith
  simp only [parts, bound] at hnear ⊢
  norm_num at hnear hsize ⊢
  linarith

/-! ### Staying in the interval -/

/-- The numbers with a close call at an end of their interval. -/
def closeNumbers : List (Nat × Int) :=
  [(11420669, -107), (11420670, -107), (11420669, -106), (11420670, -106), (14437329, -49),
    (14437330, -49)]

theorem mem_closeNumbers_of_upper (h : (2 * m + 1, e - 1) ∈ closeCalls) :
    (m, e) ∈ closeNumbers := by
  simp only [closeCalls, closeNumbers, List.mem_cons, Prod.mk.injEq, List.not_mem_nil,
    or_false] at h ⊢
  omega

theorem mem_closeNumbers_of_lower
    (hend : h = 2 * m - 1 ∧ g = e - 1 ∨ h = 2 ^ 25 - 1) (hclose : (h, g) ∈ closeCalls) :
    (m, e) ∈ closeNumbers := by
  simp only [closeCalls, closeNumbers, List.mem_cons, Prod.mk.injEq, List.not_mem_nil,
    or_false] at hclose ⊢
  omega

section Sides

variable {d : Nat} (hhalf : Halfway m e h g) (hfar : (h, g) ∉ closeCalls)
  (hgrid : |(d : ℚ) * 10 ^ k - m * 2 ^ e| ≤ 10 ^ k)
  (herror : |v - d * 10 ^ k| * parts ≤ d * 10 ^ k)

include hhalf hfar hgrid herror

theorem eq_of_abs_sub_le (hcloser : |(d : ℚ) * 10 ^ k - h * 2 ^ g| ≤ |v - d * 10 ^ k|) :
    (d : ℚ) * 10 ^ k = h * 2 ^ g :=
  (eq_or_closeCall_of_halfway hhalf hgrid
    ((mul_le_mul_of_nonneg_right hcloser (Nat.cast_nonneg _)).trans herror)).resolve_right hfar

/-- A value that hardly differs from a decimal lies behind an end as the decimal does. -/
theorem end_lt_of_error (hlt : (h : ℚ) * 2 ^ g < d * 10 ^ k) : (h : ℚ) * 2 ^ g < v := by
  refine not_le.1 fun hle => hlt.ne' (eq_of_abs_sub_le hhalf hfar hgrid herror ?_)
  rw [abs_sub_comm v, abs_of_pos (sub_pos.2 hlt), abs_of_nonneg (by linarith)]
  linarith

/-- A value that hardly differs from a decimal lies before an end as the decimal does. -/
theorem lt_end_of_error (hlt : (d : ℚ) * 10 ^ k < h * 2 ^ g) : v < h * 2 ^ g := by
  refine not_le.1 fun hle => hlt.ne (eq_of_abs_sub_le hhalf hfar hgrid herror ?_)
  rw [abs_sub_comm, abs_of_pos (sub_pos.2 hlt), abs_of_nonneg (by linarith)]
  linarith

end Sides

/-- A value that hardly differs from the decimal of a number lies in the interval of the number. -/
theorem isNearest_of_error {d : Nat} (hcanonical : Canonical .single m e) (hm : m ≠ 0)
    (hfar : (m, e) ∉ closeNumbers) (hnearest : IsNearest .single m e (d * 10 ^ k))
    (hgrid : |(d : ℚ) * 10 ^ k - m * 2 ^ e| ≤ 10 ^ k)
    (herror : |v - d * 10 ^ k| * parts ≤ d * 10 ^ k)
    (hexact : ∀ h g, Halfway m e h g → (d : ℚ) * 10 ^ k = h * 2 ^ g → v = d * 10 ^ k) :
    IsNearest .single m e v := by
  constructor
  · obtain ⟨h, g, hhalf, hend, hform⟩ := halfway_lower hcanonical hm
    have hlower := hnearest.lower
    rw [hend] at hlower ⊢
    rcases hlower with hlt | ⟨heven, heq⟩
    -- strictly inside the end the error does not reach it, and at the end there is none
    · have hfar' := mt (mem_closeNumbers_of_lower hform) hfar
      exact .inl (end_lt_of_error hhalf hfar' hgrid herror hlt)
    · exact .inr ⟨heven, by rw [hexact h g hhalf heq.symm, heq]⟩
  · obtain ⟨hhalf, hend⟩ := halfway_upper hcanonical
    have hupper := hnearest.upper
    rw [hend] at hupper ⊢
    rcases hupper with hlt | ⟨heven, heq⟩
    · have hfar' := mt mem_closeNumbers_of_upper hfar
      exact .inl (lt_end_of_error hhalf hfar' hgrid herror hlt)
    · exact .inr ⟨heven, by rw [hexact _ _ hhalf heq, heq]⟩

/-! ### Reading back -/

theorem natAbs_exponent_le {x : Decimals} (hcanonical : Canonical .single m e) (hm : m ≠ 0)
    (hx : x.Suits m e) (hne : x.digits ≠ 0) : x.exponent.natAbs ≤ 60 := by
  obtain ⟨hlt, hmin, hmax, -⟩ := hcanonical
  have hlt' : (m : ℚ) < 2 ^ 24 := by exact_mod_cast hlt
  have hone : (1 : ℚ) ≤ m := by exact_mod_cast Nat.pos_of_ne_zero hm
  simp only [Format.single] at hmin hmax
  have hdigits : (1 : ℚ) ≤ x.digits := by
    exact_mod_cast Nat.pos_of_ne_zero hne
  have hdigits' : (x.digits : ℚ) < 2 ^ 29 := by exact_mod_cast hx.digits_lt
  have hpow := ten_zpow_pos x.exponent
  -- the decimal is close to the number, which has an exponent of at most eight bits
  have hhigh : (10 : ℚ) ^ x.exponent < 10 ^ (60 : ℤ) := by
    calc (10 : ℚ) ^ x.exponent ≤ x.value := le_mul_of_one_le_left hpow.le hdigits
      _ ≤ upperEnd m e := hx.isNearest.le_upperEnd
      _ ≤ 2 ^ 27 * 2 ^ (e - 2) := mul_le_mul_of_nonneg_right (by linarith) (two_zpow_pos _).le
      _ ≤ 2 ^ 27 * 2 ^ (102 : ℤ) :=
          mul_le_mul_of_nonneg_left (two_zpow_le (by omega)) (by positivity)
      _ < 10 ^ (60 : ℤ) := by norm_num
  have hlow : (10 : ℚ) ^ (-61 : ℤ) < 10 ^ x.exponent := by
    refine lt_of_mul_lt_mul_left ?_ (show (0 : ℚ) ≤ 2 ^ 29 by positivity)
    calc (2 : ℚ) ^ 29 * 10 ^ (-61 : ℤ) < 2 ^ (-151 : ℤ) := by norm_num
      _ ≤ 2 ^ (e - 2) := two_zpow_le (by omega)
      _ ≤ (4 * m - 2) * 2 ^ (e - 2) :=
          le_mul_of_one_le_left (two_zpow_pos _).le (by linarith)
      _ ≤ x.value := (le_lowerEnd .single m e).trans hx.isNearest.lowerEnd_le
      _ ≤ 2 ^ 29 * 10 ^ x.exponent := mul_le_mul_of_nonneg_right hdigits'.le hpow.le
  have hlt60 := (zpow_lt_zpow_iff_right₀ (by norm_num)).1 hhigh
  have hgt61 := (zpow_lt_zpow_iff_right₀ (by norm_num)).1 hlow
  omega

/-- The numbers with a close call are read back. -/
theorem convert_assemble?_of_mem :
    ∀ p ∈ closeNumbers, (shortest .single .even p.1 p.2).exponent < 0 ∧ ∀ negative : Bool,
      (assemble? negative (shortest .single .even p.1 p.2).digits
        (shortest .single .even p.1 p.2).exponent).map (convert .single) =
          some (ofParts .single negative p.1 p.2) := by
  decide +kernel

/-- The shortest decimal of a number is read back, also with zeros in place of a positive
exponent. -/
theorem convert_assemble? (negative : Bool) {s : Nat} {a : Int}
    (hcanonical : Canonical .single m e) (hm : m ≠ 0) (hs : s < 2 ^ 53) (ha : a.natAbs ≤ 60)
    (hvalue : (s : ℚ) * 10 ^ a = (shortest .single .even m e).value)
    (hform : 0 ≤ (shortest .single .even m e).exponent ∨
      s = (shortest .single .even m e).digits ∧ a = (shortest .single .even m e).exponent) :
    (assemble? negative s a).map (convert .single) = some (finite negative m e hcanonical) := by
  by_cases hclose : (m, e) ∈ closeNumbers
  · -- a number with a close call is below one, so its decimal is written without further zeros
    obtain ⟨hneg, hread⟩ := convert_assemble?_of_mem _ hclose
    obtain ⟨rfl, rfl⟩ := hform.resolve_left (not_le.2 hneg)
    rw [hread, ofParts, dif_pos hcanonical]
  · have hsuits := suits_shortest .even hm hcanonical
    generalize shortest .single .even m e = x at hvalue hsuits
    obtain ⟨d, k, hgrid, hnext⟩ := hsuits.onGrid
    have hnearest := hsuits.isNearest
    have hs0 : s ≠ 0 := by
      rintro rfl
      rw [Nat.cast_zero, zero_mul] at hvalue
      exact (hnearest.pos hm).ne hvalue
    obtain ⟨y, v, hread⟩ := exists_reads negative hs0 hs ha
    have herror := hread.error
    have hexact := hread.eq_of_eq
    rw [hvalue, hgrid] at herror hexact
    rw [hgrid] at hnearest hnext
    rw [hread.eq, Option.map_some, convert_eq_finite negative hcanonical hm hread.isFinite
      hread.exact (isNearest_of_error hcanonical hm hclose hnearest hnext herror fun h g hhalf => ?_)]
    have hlt := hhalf.lt
    have hrange := hhalf.inRange
    simp only [bound] at hlt
    exact hexact h g (by omega) (by have := hrange.1; omega) (by have := hrange.2; omega)

/-! ### Numerals -/

variable {n : Numeral} {x : Decimals}

theorem length_digitsOf_le (hx : x.digits < 2 ^ 29) : (digitsOf x.digits).length ≤ 9 :=
  (Nat.length_toDigits_le_iff (by decide) (by decide)).2 (hx.trans (by norm_num))

/-- A numeral of at most nine digits is the decimal that it is laid out for, or is written with the
zeros of a whole number. -/
theorem scaled_digits_eq (hvalues : NumberStyle.Values n (digitsOf x.digits) x.exponent)
    (hfirst : n.exponent = none → x.exponent + (digitsOf x.digits).length - 1 ≤ 12)
    (hdigits : x.digits < 2 ^ 29) :
    n.significand < 2 ^ 53 ∧ (n.significand : ℚ) * 10 ^ n.lastExponent = x.value ∧
      (0 ≤ x.exponent ∧ n.lastExponent = -1 ∨
        n.significand = x.digits ∧ n.lastExponent = x.exponent) := by
  have hdigitsOf := ofDigitChars_digitsOf x.digits
  rcases hvalues.digits with ⟨hs, ha⟩ | ⟨hnone, hwhole, hs, ha⟩
  · rw [hdigitsOf] at hs
    rw [hs, ha]
    exact ⟨hdigits.trans (by norm_num), rfl, .inr ⟨rfl, rfl⟩⟩
  · have hlength := hfirst hnone
    rw [hdigitsOf] at hs
    refine ⟨?_, hvalues.scaled_eq, .inl ⟨hwhole, ha⟩⟩
    rw [hs]
    calc x.digits * 10 ^ (x.exponent.toNat + 1)
        < 10 ^ (digitsOf x.digits).length * 10 ^ (x.exponent.toNat + 1) :=
          Nat.mul_lt_mul_of_pos_right (lt_ten_pow_length _) (by positivity)
      _ = 10 ^ ((digitsOf x.digits).length + (x.exponent.toNat + 1)) := (pow_add _ _ _).symm
      _ ≤ 10 ^ 14 := Nat.pow_le_pow_right (by decide) (by omega)
      _ < 2 ^ 53 := by norm_num

/-- The numeral of a number is read back as the number. -/
theorem value?_numeral_of_ne_zero (negative : Bool) (hcanonical : Canonical .single m e)
    (hm : m ≠ 0) : ((NumberStyle.shortDocument.numeral negative
      (shortest .single .even m e)).value?).map Number.toSingle =
        some (finite negative m e hcanonical) := by
  have hsuits := suits_shortest .even hm hcanonical
  have hexponent := natAbs_exponent_le hcanonical hm hsuits (digits_shortest_ne_zero hm)
  have hvalues := NumberStyle.values_numeral .shortDocument negative (shortest .single .even m e)
  have hlength := length_digitsOf_le hsuits.digits_lt
  obtain ⟨hs, hvalue, hform⟩ := scaled_digits_eq hvalues
    (NumberStyle.firstExponent_le rfl) hsuits.digits_lt
  -- the last exponent is that of the decimal, or it is the one behind a single zero
  have hlast : (NumberStyle.shortDocument.numeral negative
      (shortest .single .even m e)).lastExponent.natAbs ≤ 60 := by
    rcases hform with ⟨-, ha⟩ | ⟨-, ha⟩ <;> omega
  have hwritten := hvalues.written
  rw [value?_eq (hs.trans (by decide)) ?_ (by omega) hvalues.point, negative_numeral,
    Option.map_map]
  · exact convert_assemble? negative hcanonical hm hs hlast hvalue (hform.imp_left And.left)
  · rcases hwritten with hnone | hwritten
    · rw [hnone]
      decide
    · omega

theorem value?_numeral {x : Single} (hx : x.isFinite = true) :
    ((x.numeral .shortDocument).value?).map Number.toSingle = some x := by
  cases x with
  | nan => cases hx
  | infinity _ => cases hx
  | finite negative m e h =>
    rw [Binary.numeral]
    split
    · rename_i hm
      subst hm
      obtain rfl : e = -149 := h.2.2.2.resolve_left (by decide)
      cases negative <;> decide +revert +kernel
    · exact value?_numeral_of_ne_zero negative h ‹_›

end CancellationPolicy.Json.Numeral
