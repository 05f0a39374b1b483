import CancellationPolicy.Proofs.Decimal.Reading
import CancellationPolicy.Proofs.Decimal.Value

/-!
# Places of decimals that are read

The digits of an amount denote a number (`number`).  Reading them finds the decimal that is nearest
to it at the last place for which there is room, or the number itself (`isNearest_ofDigits?`), and
finds one if the number, rounded to an integer, is in the range of mantissas
(`isSome_ofDigits?_iff`).  Digits for which there is room are all kept (`ofDigits?_eq_ofParts?`,
`ofDigits?_of_room`).

The digits that are left out are rounded off by the first of them alone, which is enough to tell
whether they come to one half.  Where the mantissa is full, one more would leave its range, so it
gives up one place; its last digit is then rounded with them.
-/

namespace CancellationPolicy.Decimal

open Binary (abs_signed signed signed_sub)

variable {x : Decimal} {negative : Bool} {m s : Nat} {q v : ℚ} {d : Char}
  {ds whole fraction : List Char}

/-! ### Digits behind the point -/

/-- The number with the given digits behind the point and none in front of it. -/
def fractionValue (ds : List Char) : ℚ := (Nat.ofDigitChars 10 ds 0 : ℚ) / 10 ^ ds.length

theorem digitsValue_eq (n : Nat) (ds : List Char) : digitsValue n ds = Nat.ofDigitChars 10 ds n :=
  rfl

@[simp] theorem fractionValue_nil : fractionValue [] = 0 := by
  show (0 : ℕ) / (10 : ℚ) ^ 0 = 0
  rw [Nat.cast_zero, zero_div]

/-- The first digit behind the point counts tenths. -/
theorem fractionValue_cons (d : Char) (ds : List Char) :
    fractionValue (d :: ds) = (digitValue d + fractionValue ds) / 10 := by
  have hdigits : Nat.ofDigitChars 10 (d :: ds) 0 =
      10 ^ ds.length * digitValue d + Nat.ofDigitChars 10 ds 0 := by
    rw [Nat.ofDigitChars_cons, Nat.ofDigitChars_eq_ofDigitChars_zero, Nat.mul_zero, Nat.zero_add]
    rfl
  have hpos := ten_pow_pos ds.length
  rw [fractionValue, hdigits, fractionValue, List.length_cons, pow_succ]
  push_cast
  field_simp

theorem fractionValue_nonneg (ds : List Char) : 0 ≤ fractionValue ds := by
  unfold fractionValue
  positivity

theorem fractionValue_lt_one (hds : ∀ d ∈ ds, Amount.isDigit d = true) : fractionValue ds < 1 := by
  have hlt := digitsValue_lt hds 0
  rw [digitsValue_eq, Nat.zero_add, Nat.one_mul, Nat.pow_eq] at hlt
  rw [fractionValue, div_lt_one (ten_pow_pos _)]
  exact_mod_cast hlt

/-! ### The nearest decimal -/

/-- Whether a decimal is as near to a number as its last place allows, and differs from it only if
there is no room for one more place. -/
structure IsNearest (x : Decimal) (q : ℚ) : Prop where
  dist_le : |x.toRat - q| * 10 ^ x.scale ≤ 1 / 2
  full : x.toRat = q ∨ x.scale = maxScale ∨ mantissaBound ≤ 10 * x.mantissa + 9

/-- A mantissa that is off by at most a half is off by at most half a place. -/
theorem dist_of_ofParts? (h : ofParts? negative m s = some x)
    (hv : |(m : ℚ) - v * 10 ^ s| ≤ 1 / 2) :
    |x.toRat - signed negative v| * 10 ^ x.scale ≤ 1 / 2 := by
  obtain ⟨-, hscale, hvalue⟩ := of_ofParts? h
  have hpos := ten_pow_pos s
  calc |x.toRat - signed negative v| * 10 ^ x.scale
      = |(m : ℚ) / 10 ^ s - v| * |(10 : ℚ) ^ s| := by
        rw [hvalue, hscale, signed_sub, abs_signed, abs_of_pos hpos]
    _ = |(m : ℚ) - v * 10 ^ s| := by
        rw [← abs_mul, sub_mul, div_mul_cancel₀ _ hpos.ne']
    _ ≤ 1 / 2 := hv

/-- The first digit that is left out decides; the others, `q` of its unit, come to less than one. -/
theorem isNearest_roundedOn? (hm : m < mantissaBound) (hd : digitValue d ≤ 9) (hq : 0 ≤ q)
    (hq' : q < 1) (hfull : s = maxScale ∨ mantissaBound ≤ 10 * m + digitValue d)
    (h : roundedOn? negative m s d = some x) :
    IsNearest x (signed negative ((m + (digitValue d + q) / 10) / 10 ^ s)) := by
  have hpos := ten_pow_pos s
  have hcancel : (m + (digitValue d + q) / 10) / 10 ^ s * 10 ^ s = m + (digitValue d + q) / 10 :=
    div_mul_cancel₀ _ hpos.ne'
  unfold roundedOn? at h
  split at h
  -- a digit up to four is dropped
  · rename_i hlow
    have hlow' : (digitValue d : ℚ) ≤ 4 := by exact_mod_cast Nat.le_of_lt_succ hlow
    have hnonneg : (0 : ℚ) ≤ digitValue d := by positivity
    obtain ⟨hmantissa, hscale, -⟩ := of_ofParts? h
    refine ⟨dist_of_ofParts? h ?_, .inr ?_⟩
    · rw [hcancel, abs_le]
      constructor <;> linarith
    · omega
  -- a digit from five on makes the mantissa one greater, if there is room
  · rename_i hhigh
    have hhigh' : (5 : ℚ) ≤ digitValue d := by exact_mod_cast Nat.le_of_not_lt hhigh
    have hnine : (digitValue d : ℚ) ≤ 9 := by exact_mod_cast hd
    split at h
    · obtain ⟨hmantissa, hscale, -⟩ := of_ofParts? h
      refine ⟨dist_of_ofParts? h ?_, .inr ?_⟩
      · rw [hcancel, abs_le]
        push_cast
        constructor <;> linarith
      · omega
    · rename_i hroom
      split at h
      · cases h
      · rename_i hs
        -- the mantissa is the greatest there is, and ends in five
        have hbound : mantissaBound = 79228162514264337593543950336 := rfl
        have hlast : (m + 5) / 10 * 10 = m + 5 := by omega
        have hlast' : (((m + 5) / 10 : ℕ) : ℚ) * 10 = m + 5 := by exact_mod_cast hlast
        obtain ⟨t, rfl⟩ := Nat.exists_eq_succ_of_ne_zero hs
        obtain ⟨hmantissa, hscale, -⟩ := of_ofParts? h
        refine ⟨dist_of_ofParts? h ?_, .inr (.inr ?_)⟩
        · rw [pow_succ] at hcancel
          have hplace : (m + (digitValue d + q) / 10) / 10 ^ (t + 1) * 10 ^ t =
              (m + (digitValue d + q) / 10) / 10 := by
            rw [pow_succ]
            field_simp
          rw [Nat.succ_eq_add_one, Nat.add_sub_cancel, hplace, abs_le]
          constructor <;> linarith
        · rw [hmantissa]
          omega

/-- Reading the fraction digit by digit, the decimal is the nearest one to all that is written. -/
theorem isNearest_withFraction? (hm : m < mantissaBound) (hs : s ≤ maxScale)
    (hds : ∀ d ∈ ds, Amount.isDigit d = true) (h : withFraction? negative m s ds = some x) :
    IsNearest x (signed negative ((m + fractionValue ds) / 10 ^ s)) := by
  induction ds generalizing m s with
  | nil =>
    obtain ⟨-, hscale, hvalue⟩ := of_ofParts? h
    rw [fractionValue_nil, add_zero, ← hvalue]
    exact ⟨by rw [sub_self, abs_zero, zero_mul]; norm_num, .inl rfl⟩
  | cons d ds ih =>
    have hd := digitValue_le (hds d List.mem_cons_self)
    have hrest : ∀ e ∈ ds, Amount.isDigit e = true := fun e he => hds e (List.mem_cons_of_mem _ he)
    rw [fractionValue_cons]
    rw [withFraction?] at h
    split at h
    · rename_i hfits
      have hnext := ih hfits.2 hfits.1 hrest h
      -- the digit moves in front of the point, which moves one place
      have hmove : ((10 * m + digitValue d : ℕ) + fractionValue ds) / (10 : ℚ) ^ (s + 1) =
          (m + (digitValue d + fractionValue ds) / 10) / 10 ^ s := by
        have hpos := ten_pow_pos s
        rw [pow_succ]
        push_cast
        field_simp
        ring
      rwa [hmove] at hnext
    · rename_i hfull
      refine isNearest_roundedOn? hm hd (fractionValue_nonneg ds) (fractionValue_lt_one hrest) ?_ h
      rw [not_and_or] at hfull
      omega

/-! ### Amounts -/

/-- The number with a sign and the given digits in front of the point and behind it. -/
def number (negative : Bool) (whole fraction : List Char) : ℚ :=
  signed negative (Nat.ofDigitChars 10 whole 0 + fractionValue fraction)

/-- Whether a number, rounded to an integer, is in the range of mantissas. -/
def Fits (q : ℚ) : Prop := |q| + 1 / 2 < mantissaBound

theorem abs_number (negative : Bool) (whole fraction : List Char) :
    |number negative whole fraction| = Nat.ofDigitChars 10 whole 0 + fractionValue fraction := by
  have hnonneg := fractionValue_nonneg fraction
  rw [number, abs_signed, abs_of_nonneg (by positivity)]

/-- The decimal that is read is the nearest one to the number that is written. -/
theorem isNearest_ofDigits? (hfraction : ∀ d ∈ fraction, Amount.isDigit d = true)
    (h : ofDigits? negative whole fraction = some x) :
    IsNearest x (number negative whole fraction) := by
  unfold ofDigits? at h
  dsimp only at h
  split at h
  · rename_i hm
    have hnearest := isNearest_withFraction? hm (Nat.zero_le _) hfraction h
    rwa [pow_zero, div_one] at hnearest
  · cases h

/-- Digits are read exactly if their number fits. -/
theorem isSome_ofDigits?_iff (hfraction : ∀ d ∈ fraction, Amount.isDigit d = true) :
    (ofDigits? negative whole fraction).isSome ↔ Fits (number negative whole fraction) := by
  rw [Fits, abs_number, ofDigits?, digitsValue_eq]
  generalize Nat.ofDigitChars 10 whole 0 = m
  have hnonneg := fractionValue_nonneg fraction
  have hone := fractionValue_lt_one hfraction
  by_cases hm : m < mantissaBound
  · rw [if_pos hm]
    by_cases hroom : m + 1 < mantissaBound
    · have hroom' : (m : ℚ) + 2 ≤ mantissaBound := by exact_mod_cast hroom
      have hsome : (withFraction? negative m 0 fraction).isSome :=
        isSome_withFraction? hm (Nat.zero_le _) (fun _ => hroom) fraction
      exact iff_of_true hsome (by linarith)
    · -- only the greatest mantissa can run over, by the first digit behind the point
      have hlast : (m : ℚ) + 1 = mantissaBound := by
        exact_mod_cast Nat.le_antisymm hm (Nat.le_of_not_lt hroom)
      have hbound : mantissaBound = 79228162514264337593543950336 := rfl
      -- behind the point, the number reaches the bound with a five
      cases fraction with
      | nil =>
        refine iff_of_true (isSome_ofParts? hm (Nat.zero_le _)) ?_
        rw [fractionValue_nil]
        linarith
      | cons d ds =>
        have hrest : ∀ e ∈ ds, Amount.isDigit e = true :=
          fun e he => hfraction e (List.mem_cons_of_mem _ he)
        have hnonneg' := fractionValue_nonneg ds
        have hone' := fractionValue_lt_one hrest
        rw [withFraction?, if_neg (by omega), roundedOn?, fractionValue_cons]
        split
        · rename_i hlow
          have hlow' : (digitValue d : ℚ) ≤ 4 := by exact_mod_cast Nat.le_of_lt_succ hlow
          exact iff_of_true (isSome_ofParts? hm (Nat.zero_le _)) (by linarith)
        · rename_i hhigh
          have hhigh' : (5 : ℚ) ≤ digitValue d := by exact_mod_cast Nat.le_of_not_lt hhigh
          rw [if_pos rfl]
          exact iff_of_false (by decide) (by linarith)
  · rw [if_neg hm]
    have hge : (mantissaBound : ℚ) ≤ m := by exact_mod_cast Nat.le_of_not_lt hm
    exact iff_of_false (by decide) (by linarith)

/-- Digits for which there is room are all kept. -/
theorem withFraction?_of_room (hm : digitsValue m ds < mantissaBound)
    (hs : s + ds.length ≤ maxScale) :
    withFraction? negative m s ds = ofParts? negative (digitsValue m ds) (s + ds.length) := by
  induction ds generalizing m s with
  | nil => rfl
  | cons d ds ih =>
    have hvalue : digitsValue (10 * m + digitValue d) ds =
        10 ^ ds.length * (10 * m + digitValue d) + digitsValue 0 ds :=
      Nat.ofDigitChars_eq_ofDigitChars_zero
    have hle : 10 * m + digitValue d ≤ 10 ^ ds.length * (10 * m + digitValue d) :=
      Nat.le_mul_of_pos_left _ (Nat.pow_pos (by decide))
    have hstep : digitsValue m (d :: ds) = digitsValue (10 * m + digitValue d) ds := rfl
    rw [hstep] at hm ⊢
    rw [List.length_cons] at hs ⊢
    rw [withFraction?, if_pos ⟨by omega, by omega⟩, ih hm (by omega), Nat.add_assoc,
      Nat.add_comm 1 ds.length]

/-- If there is room for all digits, the decimal has all of them. -/
theorem ofDigits?_eq_ofParts? (negative : Bool)
    (hroom : digitsValue 0 (whole ++ fraction) < mantissaBound)
    (hlen : fraction.length ≤ maxScale) :
    ofDigits? negative whole fraction =
      ofParts? negative (digitsValue 0 (whole ++ fraction)) fraction.length := by
  have happend : digitsValue (digitsValue 0 whole) fraction = digitsValue 0 (whole ++ fraction) :=
    (Nat.ofDigitChars_append 0).symm
  have hsplit : digitsValue (digitsValue 0 whole) fraction =
      10 ^ fraction.length * digitsValue 0 whole + digitsValue 0 fraction :=
    Nat.ofDigitChars_eq_ofDigitChars_zero
  have hwhole : digitsValue 0 whole < mantissaBound := by
    have hle : digitsValue 0 whole ≤ 10 ^ fraction.length * digitsValue 0 whole :=
      Nat.le_mul_of_pos_left _ (Nat.pow_pos (by decide))
    omega
  rw [ofDigits?, if_pos hwhole, withFraction?_of_room (by omega) (by omega), happend, Nat.zero_add]

/-- If there is room for all digits, the decimal is the number that they denote. -/
theorem ofDigits?_of_room (negative : Bool)
    (hroom : digitsValue 0 (whole ++ fraction) < mantissaBound)
    (hlen : fraction.length ≤ maxScale) :
    ∃ x, ofDigits? negative whole fraction = some x ∧ x.toRat = number negative whole fraction ∧
      x.scale = fraction.length ∧ x.mantissa = digitsValue 0 (whole ++ fraction) := by
  have hsplit : digitsValue 0 (whole ++ fraction) =
      10 ^ fraction.length * digitsValue 0 whole + digitsValue 0 fraction :=
    (Nat.ofDigitChars_append 0).trans Nat.ofDigitChars_eq_ofDigitChars_zero
  have hsome : (ofParts? negative (digitsValue 0 (whole ++ fraction)) fraction.length).isSome :=
    isSome_ofParts? hroom hlen
  obtain ⟨x, hx⟩ := Option.isSome_iff_exists.1 hsome
  obtain ⟨hmantissa, hscale, hvalue⟩ := of_ofParts? hx
  refine ⟨x, (ofDigits?_eq_ofParts? negative hroom hlen).trans hx, ?_, hscale, hmantissa⟩
  have hpos := ten_pow_pos fraction.length
  rw [hvalue, number, fractionValue, hsplit, digitsValue_eq, digitsValue_eq]
  congr 1
  push_cast
  field_simp

end CancellationPolicy.Decimal
