import CancellationPolicy.Decimal.Notation
import CancellationPolicy.Proofs.Text.Trim

/-!
# Amounts that are read

An amount with at most 28 digits in front of the point is read, whatever digits follow the point
(`Amount.isSome_parse?`).  So many digits stay below the bound of mantissas.  The digits of the
fraction are taken in as long as there is room, and then the rest is rounded off, for which there is
room as well: only a mantissa without places behind the point could run over, and one place can be
given up otherwise.
-/

namespace CancellationPolicy

namespace Decimal

variable {negative : Bool} {m s n : Nat} {ds fs : List Char}

/-! ### Digits -/

theorem digitValue_le {d : Char} (h : Amount.isDigit d = true) : digitValue d ≤ 9 := by
  have hle : d ≤ '9' := by
    rw [Amount.isDigit, Bool.and_eq_true, decide_eq_true_eq, decide_eq_true_eq] at h
    exact h.2
  have hnat : d.toNat ≤ 57 := UInt32.le_iff_toNat_le.1 hle
  rw [digitValue]
  omega

/-- A number of some digits is below the power of ten with as many zeros. -/
theorem digitsValue_lt (hds : ∀ d ∈ ds, Amount.isDigit d = true) (n : Nat) :
    digitsValue n ds < (n + 1) * Nat.pow 10 ds.length := by
  induction ds generalizing n with
  | nil => simp [digitsValue]
  | cons d ds ih =>
    have hd := digitValue_le (hds d List.mem_cons_self)
    have hrest := ih (fun e he => hds e (List.mem_cons_of_mem _ he)) (10 * n + digitValue d)
    calc digitsValue n (d :: ds)
        = digitsValue (10 * n + digitValue d) ds := rfl
      _ < (10 * n + digitValue d + 1) * Nat.pow 10 ds.length := hrest
      _ ≤ ((n + 1) * 10) * Nat.pow 10 ds.length := Nat.mul_le_mul_right _ (by omega)
      _ = (n + 1) * Nat.pow 10 (d :: ds).length := by
        rw [Nat.mul_assoc, Nat.mul_comm 10]
        rfl

/-- Digits that fit into the scale have a value below its power of ten. -/
theorem digitsValue_lt_of_length_le (hds : ∀ d ∈ ds, Amount.isDigit d = true)
    (hlen : ds.length ≤ maxScale) : digitsValue 0 ds < Nat.pow 10 maxScale := by
  have hpow : Nat.pow 10 ds.length ≤ Nat.pow 10 maxScale := Nat.pow_le_pow_right (by omega) hlen
  have hvalue := digitsValue_lt hds 0
  omega

/-! ### Mantissas in range -/

theorem isSome_ofParts? (hm : m < mantissaBound) (hs : s ≤ maxScale) :
    (ofParts? negative m s).isSome := by
  rw [ofParts?, dif_pos ⟨hm, hs⟩]
  rfl

/-- Rounding gives a decimal, unless the mantissa runs over without places behind the point. -/
theorem isSome_roundedOn? (hm : m < mantissaBound) (hs : s ≤ maxScale)
    (hroom : s = 0 → m + 1 < mantissaBound) (d : Char) : (roundedOn? negative m s d).isSome := by
  rw [roundedOn?]
  split
  · exact isSome_ofParts? hm hs
  · split
    · rename_i hlt
      exact isSome_ofParts? hlt hs
    · rename_i hfull
      split
      · rename_i hzero
        exact absurd (hroom hzero) hfull
      · -- one place less leaves room for the last digit
        have hbound : mantissaBound = 79228162514264337593543950336 := rfl
        exact isSome_ofParts? (by omega) (by omega)

/-- A fraction can be read behind a whole with room. -/
theorem isSome_withFraction? (hm : m < mantissaBound) (hs : s ≤ maxScale)
    (hroom : s = 0 → m + 1 < mantissaBound) (fs : List Char) :
    (withFraction? negative m s fs).isSome := by
  induction fs generalizing m s with
  | nil => exact isSome_ofParts? hm hs
  | cons d fs ih =>
    rw [withFraction?]
    split
    · rename_i hfits
      exact ih hfits.2 hfits.1 fun hzero => absurd hzero (Nat.succ_ne_zero s)
    · exact isSome_roundedOn? hm hs hroom d

theorem isSome_ofDigits? (hds : ∀ d ∈ ds, Amount.isDigit d = true) (hlen : ds.length ≤ maxScale)
    (fs : List Char) : (ofDigits? negative ds fs).isSome := by
  have hlt := digitsValue_lt_of_length_le hds hlen
  have hbound : Nat.pow 10 maxScale + 1 < mantissaBound := by decide
  rw [ofDigits?, if_pos (by omega)]
  exact isSome_withFraction? (by omega) (Nat.zero_le _) (fun _ => by omega) fs

end Decimal

/-! ### Texts of amounts -/

namespace Amount

variable {whole fraction : List Char}

/-- The text of digits in front of a point and behind it, without a point if there are none behind
it. -/
def plain (whole fraction : List Char) : List Char :=
  if fraction.isEmpty then whole else whole ++ '.' :: fraction

theorem isBlank_of_isDigit {d : Char} (h : isDigit d = true) : isBlank d = false := by
  have hrange : ∀ n < 58, 48 ≤ n → blanks.contains n = false := by decide
  rw [isDigit, Bool.and_eq_true, decide_eq_true_eq, decide_eq_true_eq] at h
  have hle : d.toNat ≤ 57 := UInt32.le_iff_toNat_le.1 h.2
  exact hrange d.toNat (by omega) (UInt32.le_iff_toNat_le.1 h.1)

/-- A text that starts with a digit has no sign. -/
theorem splitSign_of_isDigit {d : Char} (h : isDigit d = true) (cs : List Char) :
    splitSign (d :: cs) = (false, d :: cs) := by
  unfold splitSign
  split
  · rename_i hcons
    rw [(List.cons.inj hcons).1] at h
    cases h
  · rename_i hcons
    rw [(List.cons.inj hcons).1] at h
    cases h
  · rfl

/-- Digits are read up to what starts with no digit. -/
theorem spanDigits_append (hwhole : ∀ d ∈ whole, isDigit d = true) {rest : List Char}
    (hrest : ∀ c ∈ rest.head?, isDigit c = false) :
    spanDigits (whole ++ rest) = (whole, rest) := by
  have hstop : rest.takeWhile isDigit = [] ∧ rest.dropWhile isDigit = rest := by
    cases rest with
    | nil => exact ⟨rfl, rfl⟩
    | cons c cs =>
      have hc := hrest c rfl
      simp [hc]
  rw [spanDigits, List.takeWhile_append_of_pos hwhole, List.dropWhile_append_of_pos hwhole,
    hstop.1, hstop.2, List.append_nil]

/-- Digits with a point between them are read as they are. -/
theorem digits?_plain (hwhole : ∀ d ∈ whole, isDigit d = true) (hne : whole ≠ [])
    (hfraction : ∀ d ∈ fraction, isDigit d = true) :
    digits? (plain whole fraction) = some (whole, fraction) := by
  unfold plain
  split
  · rename_i hempty
    obtain rfl := List.isEmpty_iff.1 hempty
    have hspan : spanDigits (whole ++ []) = (whole, []) := spanDigits_append hwhole (by simp)
    rw [List.append_nil] at hspan
    simp [digits?, hspan, hne, fraction?]
  · rename_i hempty
    have hspan : spanDigits (whole ++ '.' :: fraction) = (whole, '.' :: fraction) :=
      spanDigits_append hwhole (by simp; decide)
    have hnonempty : fraction ≠ [] := fun h => hempty (List.isEmpty_iff.2 h)
    have hall : fraction.all isDigit = true := List.all_eq_true.2 hfraction
    simp [digits?, hspan, hne, fraction?, hnonempty, hall]

/-- A plain number has the digits of its whole, those of its fraction, and a point before the
latter. -/
theorem mem_plain {c : Char} :
    c ∈ plain whole fraction ↔ c ∈ whole ∨ c ∈ fraction ∨ c = '.' ∧ fraction ≠ [] := by
  unfold plain
  split
  · rename_i hempty
    simp [List.isEmpty_iff.1 hempty]
  · rename_i hempty
    have hne : fraction ≠ [] := fun h => hempty (List.isEmpty_iff.2 h)
    simp [hne, or_comm]

/-- A plain number of up to 28 digits before the point is read as a decimal. -/
theorem isSome_parse? (hwhole : ∀ d ∈ whole, isDigit d = true) (hne : whole ≠ [])
    (hlen : whole.length ≤ Decimal.maxScale) (hfraction : ∀ d ∈ fraction, isDigit d = true) :
    (parse? (String.ofList (plain whole fraction))).isSome := by
  have hblank : ∀ c ∈ plain whole fraction, isBlank c = false := by
    intro c hc
    rcases mem_plain.1 hc with hc | hc | ⟨rfl, -⟩
    · exact isBlank_of_isDigit (hwhole c hc)
    · exact isBlank_of_isDigit (hfraction c hc)
    · decide
  have htrim : Text.trim (plain whole fraction) = plain whole fraction :=
    Text.trim_eq_self (fun c hc => hblank c (List.mem_of_mem_head? hc))
      fun c hc => hblank c (List.mem_of_mem_getLast? hc)
  have hsign : splitSign (plain whole fraction) = (false, plain whole fraction) := by
    obtain ⟨d, ds, rfl⟩ := List.exists_cons_of_ne_nil hne
    have hd := hwhole d List.mem_cons_self
    unfold plain
    split
    · exact splitSign_of_isDigit hd ds
    · exact splitSign_of_isDigit hd (ds ++ '.' :: fraction)
  rw [parse?, String.toList_ofList, htrim, hsign]
  simp only [digits?_plain hwhole hne hfraction]
  exact Decimal.isSome_ofDigits? hwhole hlen fraction

end Amount

end CancellationPolicy
