import CancellationPolicy.Scoring.Confidence
import Mathlib.Algebra.Order.Field.Rat
import Mathlib.Tactic.Linarith

/-!
# The blend of the scores

Over the rationals, where nothing is rounded, the blend of the scores is a confidence, and keeps the
order of everything that goes into it (`blend_mono`): greater scores, more critical fields and
lesser penalties do not lower it, in any combination.  Two steps are not linear, the move into the
range from zero to one and the cap, and the count decides whether the second one is made.  More
critical fields can only lift the cap, so that the steps agree.

The cap is reported exactly if it changes the blend (`blend_bounds`).
-/

namespace CancellationPolicy.Confidence

variable {settings : Settings ℚ} {x x' y y' p p' : ℚ} {n n' : Nat}

/-! ### The range from zero to one -/

theorem clamp_eq (x : ℚ) : clamp x = min (max x 0) 1 := by
  unfold clamp
  rw [max_comm, max_def_lt', min_comm, min_def_lt]

theorem clamp_mono (h : x ≤ y) : clamp x ≤ clamp y := by
  rw [clamp_eq, clamp_eq]
  exact min_le_min_right _ (max_le_max_right _ h)

theorem zero_le_clamp (x : ℚ) : 0 ≤ clamp x := by
  rw [clamp_eq]
  exact le_min (le_max_right x 0) zero_le_one

theorem clamp_le_one (x : ℚ) : clamp x ≤ 1 := by
  rw [clamp_eq]
  exact min_le_right _ 1

/-! ### The cap -/

/-- The blend is the cap if that lies below it and critical fields are missing. -/
theorem blend_of_capped (hn : n < settings.minCritical)
    (hcap : settings.cap < clamp (settings.alpha * x + (1 - settings.alpha) * y - p)) :
    blend settings x y n p = (settings.cap, true) := by
  unfold blend
  exact if_pos ⟨hn, hcap⟩

/-- Without the cap, the blend is the clamped average less the penalties. -/
theorem blend_of_not_capped (h : ¬(n < settings.minCritical ∧
    settings.cap < clamp (settings.alpha * x + (1 - settings.alpha) * y - p))) :
    blend settings x y n p =
      (clamp (settings.alpha * x + (1 - settings.alpha) * y - p), false) := by
  unfold blend
  exact if_neg h

theorem blend_le_clamp (settings : Settings ℚ) (x y : ℚ) (n : Nat) (p : ℚ) :
    (blend settings x y n p).1 ≤
      clamp (settings.alpha * x + (1 - settings.alpha) * y - p) := by
  rw [blend_fst]
  dsimp only
  split
  · rename_i hcap
    exact hcap.2.le
  · exact le_rfl

theorem zero_le_blend (hcap : 0 ≤ settings.cap) (x y : ℚ) (n : Nat) (p : ℚ) :
    0 ≤ (blend settings x y n p).1 := by
  rw [blend_fst]
  dsimp only
  split
  · exact hcap
  · exact zero_le_clamp _

/-- With too few critical fields, the blend is at most the cap. -/
theorem blend_le_cap (hn : n < settings.minCritical) (x y p : ℚ) :
    (blend settings x y n p).1 ≤ settings.cap := by
  rw [blend_fst]
  dsimp only
  split
  · exact le_rfl
  · rename_i hcap
    apply not_lt.1
    intro hlt
    exact hcap ⟨hn, hlt⟩

/-- The blend is capped exactly if the cap changes it. -/
theorem isCapped_iff (settings : Settings ℚ) (x y : ℚ) (n : Nat) (p : ℚ) :
    (blend settings x y n p).2 = true ↔
      (blend settings x y n p).1 ≠ clamp (settings.alpha * x + (1 - settings.alpha) * y - p) := by
  by_cases h : n < settings.minCritical ∧
      settings.cap < clamp (settings.alpha * x + (1 - settings.alpha) * y - p)
  · rw [blend_of_capped h.1 h.2]
    exact iff_of_true rfl h.2.ne
  · rw [blend_of_not_capped h]
    exact iff_of_false Bool.false_ne_true fun hne => hne rfl

/-! ### The order -/

/-- Greater scores, more critical fields and lesser penalties do not lower the blend. -/
theorem blend_mono (halpha : 0 ≤ settings.alpha) (halpha' : settings.alpha ≤ 1) (hx : x ≤ x')
    (hy : y ≤ y') (hn : n ≤ n') (hp : p' ≤ p) :
    (blend settings x y n p).1 ≤ (blend settings x' y' n' p').1 := by
  have hfields : settings.alpha * x ≤ settings.alpha * x' := mul_le_mul_of_nonneg_left hx halpha
  have hcoverage : (1 - settings.alpha) * y ≤ (1 - settings.alpha) * y' :=
    mul_le_mul_of_nonneg_left hy (sub_nonneg.2 halpha')
  have hclamp : clamp (settings.alpha * x + (1 - settings.alpha) * y - p) ≤
      clamp (settings.alpha * x' + (1 - settings.alpha) * y' - p') :=
    clamp_mono (by linarith)
  by_cases h : n' < settings.minCritical ∧
      settings.cap < clamp (settings.alpha * x' + (1 - settings.alpha) * y' - p')
  · -- the greater blend is the cap, and with fewer critical fields the cap holds as well
    rw [blend_of_capped h.1 h.2]
    exact blend_le_cap (Nat.lt_of_le_of_lt hn h.1) x y p
  · rw [blend_of_not_capped h]
    exact (blend_le_clamp settings x y n p).trans hclamp

/-- The blend of any scores, counts and penalties is a confidence from zero to one.  It does not
fall when a score or the count of critical fields grows or the penalties shrink, all at once or some
of them.  Without enough critical fields it does not exceed the cap, and it is said to be capped
exactly if it is not the weighted mean less the penalties, moved into the range. -/
theorem blend_bounds (halpha : 0 ≤ settings.alpha) (halpha' : settings.alpha ≤ 1)
    (hcap : 0 ≤ settings.cap) :
    (∀ x y n p, 0 ≤ (blend settings x y n p).1 ∧ (blend settings x y n p).1 ≤ 1) ∧
    (∀ x x' y y' n n' p p', x ≤ x' → y ≤ y' → n ≤ n' → p' ≤ p →
      (blend settings x y n p).1 ≤ (blend settings x' y' n' p').1) ∧
    (∀ x y n p, n < settings.minCritical → (blend settings x y n p).1 ≤ settings.cap) ∧
    ∀ x y n p, (blend settings x y n p).2 = true ↔ (blend settings x y n p).1 ≠
      min (max (settings.alpha * x + (1 - settings.alpha) * y - p) 0) 1 := by
  refine ⟨fun x y n p => ⟨zero_le_blend hcap x y n p, ?_⟩, ?_, ?_, ?_⟩
  · exact (blend_le_clamp settings x y n p).trans (clamp_le_one _)
  · intro x x' y y' n n' p p' hx hy hn hp
    exact blend_mono halpha halpha' hx hy hn hp
  · intro x y n p hn
    exact blend_le_cap hn x y p
  · intro x y n p
    rw [← clamp_eq]
    exact isCapped_iff settings x y n p

/-- Settings with a cap that two critical fields lift. -/
def cappedSettings : Settings ℚ where
  alpha := 3 / 4
  weights := []
  critical := []
  minorStrength := 3 / 5
  buckets := []
  minCritical := 2
  cap := 3 / 5
  penalties := ⟨1 / 10, 1 / 20⟩
  threshold := 4 / 5

/-- With one critical field the scores blend to more than the cap, which replaces the blend; with
one more, a better coverage and no penalty the blend is greater. -/
theorem blend_bounds_cappedSettings :
    0 ≤ cappedSettings.alpha ∧ cappedSettings.alpha ≤ 1 ∧ 0 ≤ cappedSettings.cap ∧
    (blend cappedSettings 1 (3 / 10) 1 (1 / 20)).2 = true ∧
    (blend cappedSettings 1 (3 / 10) 1 (1 / 20)).1 ≤ cappedSettings.cap ∧
    (blend cappedSettings 1 (3 / 10) 1 (1 / 20)).1 ≤ (blend cappedSettings 1 1 2 0).1 := by
  have halpha : 0 ≤ cappedSettings.alpha := by decide +kernel
  have halpha' : cappedSettings.alpha ≤ 1 := by decide +kernel
  have hcap : 0 ≤ cappedSettings.cap := by decide +kernel
  obtain ⟨-, hmono, hfew, hcapped⟩ := blend_bounds halpha halpha' hcap
  refine ⟨halpha, halpha', hcap, (hcapped _ _ _ _).2 ?_, hfew _ _ _ _ (by decide), ?_⟩
  · decide +kernel
  · exact hmono _ _ _ _ _ _ _ _ le_rfl (by decide +kernel) (by decide) (by decide +kernel)

end CancellationPolicy.Confidence
