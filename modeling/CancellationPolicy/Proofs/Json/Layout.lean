import CancellationPolicy.Proofs.Floating.Digits
import CancellationPolicy.Proofs.Floating.Shortest

/-!
# Numbers are written as numerals

The text of a finite number in a document is that of a well-formed numeral (`toList_write`,
`wellFormed_numeral`).  The numeral stands for the shortest decimal of the number
(`NumberStyle.values_numeral`); a whole number is written with its zeros, a point and one zero
behind it.
-/

namespace CancellationPolicy

open Json (Numeral)
open Json.Numeral

/-! ### Numerals of decimals -/

namespace NumberStyle

/-- The numeral of the digits `ds`, of which the last has the exponent `k`, without an exponent. -/
def positionalNumeral (negative : Bool) (ds : List Char) (k : Int) : Numeral :=
  let whole : Int := ds.length + k
  if 0 ≤ k then ⟨negative, ds ++ List.replicate k.toNat '0', some ['0'], none⟩
  else if 0 < whole then ⟨negative, ds.take whole.toNat, some (ds.drop whole.toNat), none⟩
  else ⟨negative, ['0'], some (List.replicate (-whole).toNat '0' ++ ds), none⟩

/-- The numeral of the digits `ds`, of which the first has the exponent `e`, with a point behind the
first. -/
def scientificNumeral (negative : Bool) (width : Nat) (ds : List Char) (e : Int) : Numeral :=
  let exponent := some (decide (e < 0), digitsPadded width e.natAbs)
  match ds with
  | d :: [] => ⟨negative, [d], none, exponent⟩
  | d :: rest => ⟨negative, [d], some rest, exponent⟩
  | [] => ⟨negative, [], none, exponent⟩

/-- The numeral of a positive decimal. -/
def numeral (style : NumberStyle) (negative : Bool) (x : Binary.Decimals) : Numeral :=
  let ds := digitsOf x.digits
  let e : Int := x.exponent + ds.length - 1
  match style.positional with
  | none => positionalNumeral negative ds x.exponent
  | some (lo, hi) =>
    if lo ≤ e ∧ e ≤ hi then positionalNumeral negative ds x.exponent
    else scientificNumeral negative style.exponentDigits ds e

variable {style : NumberStyle} {negative : Bool} {ds : List Char} {k e : Int} {width : Nat}

/-! ### The text -/

/-- Digits with a point are laid out as their numeral. -/
theorem layOut_eq (hpoint : style.point = true) :
    style.layOut ds k = (positionalNumeral negative ds k).body := by
  rw [layOut, positionalNumeral, hpoint]
  split
  · simp [body, fractionText, exponentText]
  · dsimp only
    split <;> simp [body, fractionText, exponentText]

/-- Digits with an exponent are laid out as their numeral. -/
theorem layOutScientific_eq (hplus : style.plus = true) :
    style.layOutScientific ds e =
      (scientificNumeral negative style.exponentDigits ds e).body := by
  have hsign : (if e < 0 then ['-'] else if style.plus then ['+'] else []) =
      [if decide (e < 0) then '-' else '+'] := by
    rw [hplus]
    by_cases he : e < 0 <;> simp [he]
  rw [layOutScientific.eq_def, hsign, scientificNumeral.eq_def]
  cases ds with
  | nil => simp [body, fractionText, exponentText]
  | cons d rest => cases rest <;> simp [body, fractionText, exponentText]

/-- A decimal is laid out as its numeral. -/
theorem layOutDecimals_eq (hpoint : style.point = true) (hplus : style.plus = true)
    (x : Binary.Decimals) : style.layOutDecimals x = (style.numeral negative x).body := by
  rw [layOutDecimals, numeral]
  cases style.positional with
  | none => exact layOut_eq hpoint
  | some range =>
    dsimp only
    split
    · exact layOut_eq hpoint
    · exact layOutScientific_eq hplus

/-! ### The parts -/

/-- Digits that do not start with zero make a numeral with a point. -/
theorem wellFormed_positionalNumeral (hds : IsDigits ds) (hne : ds ≠ [])
    (hhead : ds.head? ≠ some '0') : (positionalNumeral negative ds k).WellFormed := by
  have hlength := List.length_pos_iff.2 hne
  rw [positionalNumeral]
  split
  -- the point is behind the digits
  · refine ⟨isDigits_append hds (isDigits_zeros _), List.append_ne_nil_of_left_ne_nil hne _,
      fun h => absurd ?_ hhead, fun xs hxs => ?_, by simp⟩
    · rw [List.head?_append] at h
      cases ds with
      | nil => exact absurd rfl hne
      | cons d ds => exact h
    · rw [← Option.mem_some_iff.1 hxs]
      exact ⟨isDigits_zeros 1, by simp⟩
  · split
    · refine ⟨fun c hc => hds c (List.mem_of_mem_take hc), ?_, fun h => absurd ?_ hhead,
        fun xs hxs => ?_, by simp⟩
      · rw [Ne, List.take_eq_nil_iff]
        exact not_or.2 ⟨by omega, hne⟩
      · rwa [List.head?_take, if_neg (by omega)] at h
      · rw [← Option.mem_some_iff.1 hxs]
        refine ⟨fun c hc => hds c (List.mem_of_mem_drop hc), ?_⟩
        rw [Ne, List.drop_eq_nil_iff]
        omega
    -- the point is in front of the digits
    · refine ⟨isDigits_zeros 1, by simp, fun _ => rfl, fun xs hxs => ?_, by simp⟩
      rw [← Option.mem_some_iff.1 hxs]
      exact ⟨isDigits_append (isDigits_zeros _) hds, List.append_ne_nil_of_right_ne_nil _ hne⟩

/-- Digits that do not start with zero make a numeral with an exponent. -/
theorem wellFormed_scientificNumeral (hds : IsDigits ds) (hne : ds ≠ [])
    (hhead : ds.head? ≠ some '0') : (scientificNumeral negative width ds e).WellFormed := by
  have hexponent : ∀ p ∈ some (decide (e < 0), digitsPadded width e.natAbs),
      IsDigits p.2 ∧ p.2 ≠ [] := fun p hp => by
    rw [← Option.mem_some_iff.1 hp]
    exact ⟨isDigits_digitsPadded _ _, digitsPadded_ne_nil _ _⟩
  rw [scientificNumeral.eq_def]
  match ds with
  | [] => exact absurd rfl hne
  | d :: [] => exact ⟨hds, by simp, fun h => absurd h hhead, by simp, hexponent⟩
  | d :: c :: rest =>
    refine ⟨fun x hx => hds x ?_, by simp, fun h => absurd h hhead, fun xs hxs => ?_, hexponent⟩
    · rw [List.mem_singleton.1 hx]
      exact List.mem_cons_self
    · rw [← Option.mem_some_iff.1 hxs]
      exact ⟨fun x hx => hds x (List.mem_cons_of_mem _ hx), by simp⟩

theorem wellFormed_numeral {x : Binary.Decimals} (hx : x.digits ≠ 0) :
    (style.numeral negative x).WellFormed := by
  have hds := isDigits_digitsOf x.digits
  have hne := digitsOf_ne_nil x.digits
  have hhead := head?_digitsOf_ne hx
  rw [numeral]
  cases style.positional with
  | none => exact wellFormed_positionalNumeral hds hne hhead
  | some range =>
    dsimp only
    split
    · exact wellFormed_positionalNumeral hds hne hhead
    · exact wellFormed_scientificNumeral hds hne hhead

/-! ### The value -/

/-- What is known of the value of a numeral that is laid out with the digits `ds`, of which the last
has the exponent `k`. -/
structure Values (n : Numeral) (ds : List Char) (k : Int) : Prop where
  /-- Its digits are the given ones; a whole number has its zeros and one more behind the point. -/
  digits : n.significand = Nat.ofDigitChars 10 ds 0 ∧ n.lastExponent = k ∨
    n.exponent = none ∧ 0 ≤ k ∧ n.significand = Nat.ofDigitChars 10 ds 0 * 10 ^ (k.toNat + 1) ∧
      n.lastExponent = -1
  /-- An exponent is that of the first digit. -/
  written : n.exponent = none ∨ writtenExponent n.exponent = k + ds.length - 1
  /-- It is not a plain natural. -/
  point : n.fraction.isSome = true ∨ n.exponent.isSome = true

theorem ofDigitChars_append_zeros (ds : List Char) (n : Nat) :
    Nat.ofDigitChars 10 (ds ++ List.replicate n '0') 0 = Nat.ofDigitChars 10 ds 0 * 10 ^ n := by
  rw [Nat.ofDigitChars_append, Nat.ofDigitChars_replicate_zero, Nat.mul_comm]

/-- A numeral with a point has the value of its digits at their place. -/
theorem values_positionalNumeral (k : Int) : Values (positionalNumeral negative ds k) ds k := by
  rw [positionalNumeral]
  split
  · -- a whole number
    rename_i hk
    refine ⟨.inr ⟨rfl, hk, ?_, rfl⟩, .inl rfl, .inl rfl⟩
    rw [significand, Option.getD_some, List.append_assoc,
      show ['0'] = List.replicate 1 '0' from rfl, List.replicate_append_replicate,
      ofDigitChars_append_zeros]
  · split
    · -- the point is among the digits
      refine ⟨.inl ⟨?_, ?_⟩, .inl rfl, .inl rfl⟩
      · rw [significand, Option.getD_some, List.take_append_drop]
      · simp only [lastExponent, writtenExponent, Option.getD_some, List.length_drop]
        omega
    · -- zeros fill up between the point and the digits
      refine ⟨.inl ⟨?_, ?_⟩, .inl rfl, .inl rfl⟩
      · rw [significand, Option.getD_some, ← List.append_assoc, Nat.ofDigitChars_append,
          show ['0'] = List.replicate 1 '0' from rfl, List.replicate_append_replicate,
          Nat.ofDigitChars_replicate_zero, Nat.mul_zero]
      · simp only [lastExponent, writtenExponent, Option.getD_some, List.length_append,
          List.length_replicate]
        omega

/-- The exponent is written as it is. -/
theorem writtenExponent_scientific (width : Nat) (e : Int) :
    writtenExponent (some (decide (e < 0), digitsPadded width e.natAbs)) = e := by
  rw [writtenExponent, ofDigitChars_digitsPadded]
  split
  · rename_i he
    have := of_decide_eq_true he
    omega
  · rename_i he
    have := of_decide_eq_false (Bool.not_eq_true _ ▸ he)
    omega

/-- A numeral with an exponent has the value of its digits at their place. -/
theorem values_scientificNumeral (hne : ds ≠ []) (he : e = k + ds.length - 1) :
    Values (scientificNumeral negative width ds e) ds k := by
  have hexponent := writtenExponent_scientific width e
  rw [scientificNumeral.eq_def]
  match ds with
  | [] => exact absurd rfl hne
  | d :: [] =>
    refine ⟨.inl ⟨by simp [significand], ?_⟩, .inr (hexponent.trans he), .inr rfl⟩
    rw [lastExponent, hexponent]
    simp at he ⊢
    omega
  | d :: c :: rest =>
    refine ⟨.inl ⟨by simp [significand], ?_⟩, .inr (hexponent.trans he), .inr rfl⟩
    rw [lastExponent, hexponent]
    simp at he ⊢
    omega

/-- The numeral of a decimal has its value. -/
theorem values_numeral (style : NumberStyle) (negative : Bool) (x : Binary.Decimals) :
    Values (style.numeral negative x) (digitsOf x.digits) x.exponent := by
  rw [numeral]
  cases style.positional with
  | none => exact values_positionalNumeral _
  | some range =>
    dsimp only
    split
    · exact values_positionalNumeral _
    · exact values_scientificNumeral (digitsOf_ne_nil _) rfl

/-- A numeral that is laid out for a decimal has its value. -/
theorem Values.scaled_eq {n : Numeral} {x : Binary.Decimals}
    (h : Values n (digitsOf x.digits) x.exponent) :
    (n.significand : ℚ) * 10 ^ n.lastExponent = x.value := by
  have hdigits := ofDigitChars_digitsOf x.digits
  rcases h.digits with ⟨hs, ha⟩ | ⟨-, hwhole, hs, ha⟩
  · rw [hs, ha, hdigits, Binary.Decimals.value]
  · rw [hs, ha, hdigits, Binary.Decimals.value]
    push_cast
    rw [mul_assoc, pow_succ, mul_assoc, zpow_neg_one, mul_inv_cancel₀ (by norm_num), mul_one,
      ← zpow_natCast, Int.toNat_of_nonneg hwhole]

/-- A numeral without exponent has its first digit within the bounds of the style. -/
theorem firstExponent_le {lo hi : Int} (hstyle : style.positional = some (lo, hi))
    {x : Binary.Decimals} (hnone : (style.numeral negative x).exponent = none) :
    x.exponent + (digitsOf x.digits).length - 1 ≤ hi := by
  rw [numeral, hstyle] at hnone
  dsimp only at hnone
  split at hnone
  · rename_i hrange
    exact hrange.2
  · rw [scientificNumeral.eq_def] at hnone
    split at hnone <;> cases hnone

end NumberStyle

/-! ### Numerals of numbers -/

namespace Binary

variable {f : Format} {x : Binary f} {style : NumberStyle}

/-- The numeral of a finite number. -/
def numeral (style : NumberStyle) : Binary f → Numeral
  | finite n m e _ =>
    if m = 0 then ⟨n, ['0'], some ['0'], none⟩ else style.numeral n (shortest f style.tie m e)
  | _ => ⟨false, [], none, none⟩

/-- The numeral of a decimal has its sign. -/
theorem negative_numeral (style : NumberStyle) (negative : Bool) (x : Decimals) :
    (style.numeral negative x).negative = negative := by
  rw [NumberStyle.numeral]
  have hpositional (ds : List Char) (k : Int) :
      (NumberStyle.positionalNumeral negative ds k).negative = negative := by
    rw [NumberStyle.positionalNumeral]
    split
    · rfl
    · split <;> rfl
  cases style.positional with
  | none => exact hpositional _ _
  | some range =>
    dsimp only
    split
    · exact hpositional _ _
    · rw [NumberStyle.scientificNumeral.eq_def]
      split <;> rfl

/-- The text of a finite number is that of its numeral. -/
theorem toList_write (hpoint : style.point = true) (hplus : style.plus = true)
    (hx : x.isFinite = true) : (x.write style).toList = (x.numeral style).toText := by
  cases x with
  | nan => cases hx
  | infinity n => cases hx
  | finite n m e h =>
    rw [write, numeral, String.toList_ofList, hpoint]
    by_cases hm : m = 0
    · rw [if_pos hm, if_pos hm]
      rfl
    · rw [if_neg hm, if_neg hm, toText, negative_numeral,
        ← NumberStyle.layOutDecimals_eq hpoint hplus]

theorem wellFormed_numeral (hx : x.isFinite = true) : (x.numeral style).WellFormed := by
  cases x with
  | nan => cases hx
  | infinity n => cases hx
  | finite n m e h =>
    rw [numeral]
    split
    · exact ⟨isDigits_zeros 1, by simp, fun _ => rfl, fun ds hds => by
        rw [← Option.mem_some_iff.1 hds]
        exact ⟨isDigits_zeros 1, by simp⟩, by simp⟩
    · rename_i hm
      exact NumberStyle.wellFormed_numeral (digits_shortest_ne_zero hm)

end Binary

end CancellationPolicy
