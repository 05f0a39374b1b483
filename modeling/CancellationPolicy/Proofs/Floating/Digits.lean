import CancellationPolicy.Floating.Style
import CancellationPolicy.Proofs.Json.Numeral

/-!
# Digits of naturals

The digits of a natural denote it (`ofDigitChars_digitsOf`), also with zeros in front of them
(`ofDigitChars_digitsPadded`).  So many digits stay below a power of ten (`ofDigitChars_lt`), and no
digits but those of zero start with a zero (`head?_digitsOf_ne`).
-/

namespace CancellationPolicy

open Json.Numeral

theorem isDigits_digitsOf (n : Nat) : IsDigits (digitsOf n) := fun _ hc =>
  Nat.isDigit_of_mem_toDigits (by decide) (by decide) hc

theorem digitsOf_ne_nil (n : Nat) : digitsOf n ≠ [] := Nat.toDigits_ne_nil

theorem ofDigitChars_digitsOf (n : Nat) : Nat.ofDigitChars 10 (digitsOf n) 0 = n :=
  Nat.ofDigitChars_ten_toDigits

theorem lt_ten_pow_length (n : Nat) : n < 10 ^ (digitsOf n).length :=
  (Nat.length_toDigits_le_iff (by decide)
    (List.length_pos_iff.2 (digitsOf_ne_nil n))).1 (Nat.le_refl _)

theorem ofDigitChars_lt {ds : List Char} (h : IsDigits ds) :
    Nat.ofDigitChars 10 ds 0 < 10 ^ ds.length := by
  induction ds with
  | nil => decide
  | cons d ds ih =>
    have hd : d.toNat - '0'.toNat ≤ 9 := by
      have := h d List.mem_cons_self
      rw [Char.isDigit, Bool.and_eq_true, decide_eq_true_eq, decide_eq_true_eq] at this
      have h9 : d.toNat ≤ 57 := by exact_mod_cast UInt32.le_iff_toNat_le.1 this.2
      have h0 : '0'.toNat = 48 := rfl
      omega
    have := ih fun c hc => h c (List.mem_cons_of_mem _ hc)
    rw [Nat.ofDigitChars_cons, Nat.ofDigitChars_eq_ofDigitChars_zero, Nat.mul_zero, Nat.zero_add,
      List.length_cons, Nat.pow_succ]
    have := Nat.mul_le_mul_left (10 ^ ds.length) hd
    omega

/-- The first digit of a number other than zero is no zero. -/
theorem head?_digitsOf_ne {n : Nat} (hn : n ≠ 0) : (digitsOf n).head? ≠ some '0' := by
  intro hzero
  obtain ⟨ds, hds⟩ : ∃ ds, digitsOf n = '0' :: ds := by
    cases hn' : digitsOf n with
    | nil => exact absurd hn' (digitsOf_ne_nil n)
    | cons c ds =>
      rw [hn'] at hzero
      exact ⟨ds, by rw [Option.some.inj hzero]⟩
  have hdigits : IsDigits ds := fun c hc => isDigits_digitsOf n c (hds ▸ List.mem_cons_of_mem _ hc)
  have hvalue : n = Nat.ofDigitChars 10 ds 0 := by
    rw [← ofDigitChars_digitsOf n, hds, Nat.ofDigitChars_cons]
    rfl
  -- without the zero the number would have fewer digits than it has
  have hlt := ofDigitChars_lt hdigits
  rw [← hvalue] at hlt
  cases ds with
  | nil => exact hn (by simpa using hlt)
  | cons d ds =>
    have hlen := (Nat.length_toDigits_le_iff (b := 10) (by decide)
      (show 0 < (d :: ds).length by simp)).2 hlt
    rw [show Nat.toDigits 10 n = digitsOf n from rfl, hds] at hlen
    simp only [List.length_cons] at hlen
    omega

theorem isDigits_append {xs ys : List Char} (hxs : IsDigits xs) (hys : IsDigits ys) :
    IsDigits (xs ++ ys) := fun c hc => (List.mem_append.1 hc).elim (hxs c) (hys c)

theorem isDigits_zeros (n : Nat) : IsDigits (List.replicate n '0') := fun c hc => by
  rw [(List.mem_replicate.1 hc).2]
  rfl

theorem isDigits_digitsPadded (width n : Nat) : IsDigits (digitsPadded width n) :=
  isDigits_append (isDigits_zeros _) (isDigits_digitsOf n)

theorem digitsPadded_ne_nil (width n : Nat) : digitsPadded width n ≠ [] :=
  List.append_ne_nil_of_right_ne_nil _ (digitsOf_ne_nil n)

theorem ofDigitChars_digitsPadded (width n : Nat) :
    Nat.ofDigitChars 10 (digitsPadded width n) 0 = n := by
  rw [digitsPadded, Nat.ofDigitChars_append, Nat.ofDigitChars_replicate_zero, Nat.mul_zero,
    ofDigitChars_digitsOf]

end CancellationPolicy
