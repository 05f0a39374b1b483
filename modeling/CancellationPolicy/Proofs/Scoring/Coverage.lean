import CancellationPolicy.Proofs.Floating.Operations
import CancellationPolicy.Proofs.Span.Union
import CancellationPolicy.Scoring.Coverage

/-!
# More spans do not lower the coverage

The coverage of a length is a quotient of two naturals that have been rounded to 32 bits, rounded
once more.  All three roundings keep the order, so spans that cover at least as much have at least
the coverage (`coverage_le_coverage`), for any length and as long as what they cover is a finite
number.  Numbers of bytes are (`isFinite_natCast`).  In the same way the coverage of a shorter
length is at least that of a longer one (`coverage_le_coverage_of_le`).
-/

namespace CancellationPolicy

open Binary

/-! ### Naturals as numbers of 32 bits -/

theorem natCast_le_natCast {m n : Nat} (h : m ≤ n) : (m : Single) ≤ n := by
  refine round_le_round Nat.one_pos Nat.one_pos ?_
  rw [Nat.cast_one, div_one, div_one]
  exact Nat.cast_le.2 h

theorem zero_le_natCast (n : Nat) : (0 : Single) ≤ n := zero_le_round n Nat.one_pos

theorem zero_lt_natCast {n : Nat} (h : 0 < n) : (0 : Single) < n :=
  Binary.lt_of_lt_of_le (by decide : (0 : Single) < (1 : Nat)) (natCast_le_natCast h)

/-- Natural numbers of 64 bits are finite. -/
theorem isFinite_natCast {n : Nat} (h : n ≤ 2 ^ 64) : (n : Single).isFinite = true :=
  isFinite_of_le (zero_le_natCast n) (natCast_le_natCast h) (by decide)

/-! ### Coverage -/

variable {ss ts : List Span}

theorem zero_le_coverage (hts : (Span.covered ts : Single).isFinite = true) (length : Nat) :
    (0 : Single) ≤ coverage ts length := by
  rw [coverage]
  split
  · exact zero_le_natCast 0
  · rename_i h
    simp only [Bool.or_eq_true, beq_iff_eq, not_or] at h
    exact zero_le_div (zero_le_natCast _) hts (zero_lt_natCast (Nat.pos_of_ne_zero h.2))

/-- Spans that cover no less of a text have no less coverage. -/
theorem coverage_le_coverage (hts : (Span.covered ts : Single).isFinite = true)
    (hnil : ts = [] → ss = []) (hle : Span.covered ss ≤ Span.covered ts) (length : Nat) :
    (coverage ss length : Single) ≤ coverage ts length := by
  by_cases h : (ss.isEmpty || length == 0) = true
  · rw [coverage, if_pos h]
    exact zero_le_coverage hts length
  · -- the longer list is not empty either, so both coverages are quotients
    have h' := h
    simp only [Bool.or_eq_true, beq_iff_eq, not_or, List.isEmpty_iff] at h'
    have hts' : ¬(ts.isEmpty || length == 0) = true := by
      simp only [Bool.or_eq_true, beq_iff_eq, not_or, List.isEmpty_iff]
      exact ⟨mt hnil h'.1, h'.2⟩
    rw [coverage, if_neg h, coverage, if_neg hts']
    exact div_le_div (zero_le_natCast _) hts (zero_lt_natCast (Nat.pos_of_ne_zero h'.2))
      (natCast_le_natCast hle)

/-- The same spans cover more of a shorter text. -/
theorem coverage_le_coverage_of_le (ss : List Span) {m n : Nat} (hm : m ≠ 0) (hle : m ≤ n)
    (hn : n ≤ 2 ^ 64) : (coverage ss n : Single) ≤ coverage ss m := by
  have hn0 : n ≠ 0 := by omega
  by_cases hss : ss = []
  · rw [hss]
    exact zero_le_natCast 0
  · -- neither the spans nor the lengths are trivial, so both coverages are quotients
    have hlength {k : Nat} (hk : k ≠ 0) : ¬(ss.isEmpty || k == 0) = true := by
      simp only [Bool.or_eq_true, beq_iff_eq, not_or, List.isEmpty_iff]
      exact ⟨hss, hk⟩
    rw [coverage, if_neg (hlength hn0), coverage, if_neg (hlength hm)]
    exact div_le_div_left (zero_le_natCast _) (zero_lt_natCast (Nat.pos_of_ne_zero hm))
      (natCast_le_natCast hle) (isFinite_natCast hn)

end CancellationPolicy
