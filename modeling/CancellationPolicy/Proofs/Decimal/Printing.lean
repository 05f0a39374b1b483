import CancellationPolicy.Proofs.Decimal.Neutral
import CancellationPolicy.Proofs.Floating.Digits

/-!
# Decimals are read as they are printed

The text of a decimal is an amount with as many digits behind the point as the decimal has places,
and at least one in front of it (`writes_toText`).  All of its digits together are the mantissa, so
there is room for them, and reading the text gives the decimal back (`Amount.parse?_toText`), but
for the sign of a zero, which is not read.
-/

namespace CancellationPolicy

open Amount (AreDigits Writes WritesFraction)

namespace Decimal

/-! ### Digits of a decimal -/

/-- All digits of a decimal, with zeros in front up to the first place before the point. -/
def allDigits (x : Decimal) : List Char := digitsPadded (x.scale + 1) x.mantissa

/-- The digits in front of the point. -/
def wholeDigits (x : Decimal) : List Char := x.allDigits.take (x.allDigits.length - x.scale)

/-- The digits behind the point. -/
def fractionDigits (x : Decimal) : List Char := x.allDigits.drop (x.allDigits.length - x.scale)

theorem wholeDigits_append (x : Decimal) : x.wholeDigits ++ x.fractionDigits = x.allDigits :=
  List.take_append_drop _ _

theorem digitsValue_allDigits (x : Decimal) : digitsValue 0 x.allDigits = x.mantissa :=
  ofDigitChars_digitsPadded _ _

theorem isDigit_of_mem_allDigits (x : Decimal) : ∀ d ∈ x.allDigits, Amount.isDigit d = true :=
  isDigits_digitsPadded _ _

theorem lt_length_allDigits (x : Decimal) : x.scale < x.allDigits.length := by
  have hlength : x.allDigits.length =
      x.scale + 1 - (digitsOf x.mantissa).length + (digitsOf x.mantissa).length := by
    rw [allDigits, digitsPadded, List.length_append, List.length_replicate]
  omega

theorem length_fractionDigits (x : Decimal) : x.fractionDigits.length = x.scale := by
  have hlt := x.lt_length_allDigits
  rw [fractionDigits, List.length_drop]
  omega

theorem areDigits_wholeDigits (x : Decimal) : AreDigits x.wholeDigits := by
  refine ⟨?_, fun d hd => x.isDigit_of_mem_allDigits d (List.mem_of_mem_take hd)⟩
  have hlt := x.lt_length_allDigits
  rw [← List.length_pos_iff, wholeDigits, List.length_take]
  omega

/-! ### The text -/

/-- The point and the digits behind it, if there are any. -/
theorem exists_writesFraction (x : Decimal) :
    ∃ f, (if x.scale = 0 then x.allDigits else x.wholeDigits ++ '.' :: x.fractionDigits) =
      x.wholeDigits ++ f ∧ WritesFraction f x.fractionDigits := by
  split
  · rename_i hzero
    have hnil : x.fractionDigits = [] :=
      List.length_eq_zero_iff.1 (x.length_fractionDigits.trans hzero)
    exact ⟨[], by rw [← x.wholeDigits_append, hnil], hnil ▸ .none⟩
  · rename_i hscale
    have hne : x.fractionDigits ≠ [] := by
      rw [← List.length_pos_iff, length_fractionDigits]
      omega
    exact ⟨_, rfl, .point
      ⟨hne, fun d hd => x.isDigit_of_mem_allDigits d (List.mem_of_mem_drop hd)⟩⟩

/-- The text of a decimal is an amount with its digits. -/
theorem writes_toText (x : Decimal) :
    Writes x.toText.toList x.negative x.wholeDigits x.fractionDigits := by
  obtain ⟨f, hbody, hfraction⟩ := x.exists_writesFraction
  have htext : x.toText.toList =
      (if x.negative then ['-'] else []) ++ (x.wholeDigits ++ f) := by
    rw [← hbody, toText, String.toList_ofList]
    cases x.negative <;> rfl
  refine ⟨_, _, f, htext, ?_, .plain x.areDigits_wholeDigits, hfraction⟩
  cases x.negative
  · exact .none
  · exact .minus

end Decimal

namespace Amount

/-- Reading the text of a decimal gives its sign, its mantissa and its scale. -/
theorem parse?_toText (x : Decimal) :
    parse? x.toText = Decimal.ofParts? x.negative x.mantissa x.scale := by
  have hwrites := x.writes_toText
  -- the text has no blanks, so trimming leaves it as it is, and what remains is what its digits say
  have htrim : Writes (Text.trim x.toText.toList) x.negative x.wholeDigits x.fractionDigits := by
    rwa [hwrites.trim_eq]
  have hvalue : Decimal.digitsValue 0 (x.wholeDigits ++ x.fractionDigits) = x.mantissa := by
    rw [x.wholeDigits_append, x.digitsValue_allDigits]
  have hroom : Decimal.digitsValue 0 (x.wholeDigits ++ x.fractionDigits) < Decimal.mantissaBound :=
    hvalue ▸ x.mantissa_lt
  rw [parse?_of_writes htrim,
    Decimal.ofDigits?_eq_ofParts? x.negative hroom (x.length_fractionDigits ▸ x.scale_le), hvalue,
    x.length_fractionDigits]

/-- The text of a decimal is read as a decimal of the same value. -/
theorem exists_parse?_toText (x : Decimal) :
    ∃ y, parse? x.toText = some y ∧ y.toRat = x.toRat := by
  have hsome : (Decimal.ofParts? x.negative x.mantissa x.scale).isSome :=
    Decimal.isSome_ofParts? x.mantissa_lt x.scale_le
  obtain ⟨y, hy⟩ := Option.isSome_iff_exists.1 hsome
  refine ⟨y, (parse?_toText x).trans hy, ?_⟩
  rw [(Decimal.of_ofParts? hy).2.2, x.toRat_eq]

end Amount

end CancellationPolicy
