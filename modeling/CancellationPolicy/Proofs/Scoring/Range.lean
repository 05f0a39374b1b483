import CancellationPolicy.Proofs.Floating.Sum
import CancellationPolicy.Proofs.Floating.TotalOrder
import CancellationPolicy.Proofs.Scoring.Bucket
import CancellationPolicy.Proofs.Settings.Accepted
import CancellationPolicy.Settings.Document

/-!
# When the confidence is a number

Under settings without fault the confidence lies between zero and one exactly if the weight that is
present is finite; otherwise it is not a number (`value_inUnit_iff`).  The check admits infinite
weights and weights whose sum is infinite, so this does happen (`value_eq_nan_of_read`).

The weight that is present never exceeds the whole weight (`Tally.Sound`), so that their quotient
lies between zero and one unless both are infinite.  From there on every stage stays finite,
whatever the buckets are, up to the penalties, which may be infinite but only lower the blend.
-/

namespace CancellationPolicy.Confidence

open Binary

variable {settings : Settings Single} {r : Record} {x y : Single}

/-! ### The range from zero to one -/

/-- A number is between zero and one if it is finite and its exact value is. -/
theorem inUnit_iff : InUnit x ↔ x.isFinite = true ∧ 0 ≤ x.exact ∧ x.exact ≤ 1 := by
  constructor
  · rintro ⟨h0, h1⟩
    have hfinite := isFinite_of_le h0 h1 (by decide)
    exact ⟨hfinite, exact_nonneg hfinite h0, exact_le_one hfinite h1⟩
  · rintro ⟨hfinite, h0, h1⟩
    refine ⟨(zero_le_iff_exact hfinite).2 h0, ?_⟩
    rw [le_iff_exact hfinite (by decide), exact_one]
    exact h1

/-- What is nearest to a rational between zero and one lies there too. -/
theorem inUnit_of_value? {q : ℚ} (hx : x.value? = some (nearest .single q)) (h0 : 0 ≤ q)
    (h1 : q ≤ 1) : InUnit x := by
  have hone : (1 : Single).isFinite = true := by decide
  have hlow := le_nearest (f := .single) isFinite_zero (exact_eq_zero.trans_le h0)
  have hhigh := nearest_le (f := .single) hone (h1.trans exact_one.ge)
  rw [exact_eq_zero] at hlow
  rw [exact_one] at hhigh
  exact inUnit_iff.2 (exact_mem_of_value? hx hlow hhigh)

theorem inUnit_zero : InUnit 0 := by decide

theorem inUnit_one_sub (h : InUnit x) : InUnit (1 - x) := by
  obtain ⟨hfinite, h0, h1⟩ := inUnit_iff.1 h
  have hvalue := value?_sub (f := .single) (x := 1) (by decide) hfinite
  rw [exact_one] at hvalue
  exact inUnit_of_value? hvalue (sub_nonneg.2 h1) (sub_le_self _ h0)

theorem inUnit_mul (hx : InUnit x) (hy : InUnit y) : InUnit (x * y) := by
  obtain ⟨hfinite, h0, h1⟩ := inUnit_iff.1 hx
  obtain ⟨hfinite', h0', h1'⟩ := inUnit_iff.1 hy
  exact inUnit_of_value? (value?_mul hfinite hfinite') (mul_nonneg h0 h0') (mul_le_one₀ h1 h0' h1')

/-! ### The weight that is present -/

/-- What holds of a tally of weights none of which is negative: either the weight that is present is
finite and at most the whole weight, or the whole weight is infinite. -/
structure Tally.Sound (t : Tally Single) : Prop where
  /-- The whole weight is not negative. -/
  zero_le_total : 0 ≤ t.total
  /-- A finite weight that is present is part of the whole. -/
  le_total : t.weighted.isFinite = true → 0 ≤ t.weighted ∧ t.weighted ≤ t.total
  /-- A weight that is present is finite unless the whole is not. -/
  total_eq : t.weighted.isFinite = false → t.total = infinity false

/-- A field that is present counts with a part of its weight. -/
theorem Tally.Sound.grow {t : Tally Single} (h : t.Sound) {part weight : Single}
    (hweight : 0 ≤ weight) (hpart : part.isFinite = true → 0 ≤ part ∧ part ≤ weight)
    (hinfinite : part.isFinite = false → weight = infinity false) (n : Nat) :
    Tally.Sound ⟨t.weighted + part, t.total + weight, n⟩ := by
  have htotal := zero_le_add h.zero_le_total hweight
  by_cases hfinite : t.weighted.isFinite = true ∧ part.isFinite = true
  · obtain ⟨h0, hle⟩ := h.le_total hfinite.1
    obtain ⟨h0', hle'⟩ := hpart hfinite.2
    have hsum := add_mono h0 hle h0' hle'
    refine ⟨htotal, fun _ => ⟨zero_le_add h0 h0', hsum⟩, fun hnot => ?_⟩
    -- the sum has left the range of finite numbers, and the whole weight is not below it
    rw [eq_infinity (zero_le_add h0 h0') hnot] at hsum
    exact infinity_le hsum
  · refine ⟨htotal, fun hsum => absurd (isFinite_of_add hsum) hfinite, fun _ => ?_⟩
    rcases Bool.eq_false_or_eq_true t.weighted.isFinite with hw | hw
    · have hnot : part.isFinite = false := by
        rw [← Bool.not_eq_true]
        exact fun hp => hfinite ⟨hw, hp⟩
      show t.total + weight = _
      rw [hinfinite hnot, add_infinity h.zero_le_total]
    · show t.total + weight = _
      rw [h.total_eq hw, infinity_add hweight]

/-- A field that is not present counts with its weight in the whole only. -/
theorem Tally.Sound.skip {t : Tally Single} (h : t.Sound) {weight : Single} (hweight : 0 ≤ weight) :
    Tally.Sound { t with total := t.total + weight } := by
  refine ⟨zero_le_add h.zero_le_total hweight, fun hfinite => ?_, fun hnot => ?_⟩
  · obtain ⟨h0, hle⟩ := h.le_total hfinite
    exact ⟨h0, Binary.le_trans hle (le_add h.zero_le_total hweight)⟩
  · show t.total + weight = _
    rw [h.total_eq hnot, infinity_add hweight]

/-- The part with which a field counts that is not critical. -/
theorem minor_le (hx : InUnit x) (hy : 0 ≤ y) :
    ((x * y).isFinite = true → 0 ≤ x * y ∧ x * y ≤ y) ∧
      ((x * y).isFinite = false → y = infinity false) := by
  obtain ⟨hfinite, h0, h1⟩ := inUnit_iff.1 hx
  rcases nonneg_cases hy with rfl | ⟨hfinite', hpos⟩
  · -- an infinite weight times a number is infinite, or undefined for a zero
    refine ⟨fun h => absurd h ?_, fun _ => rfl⟩
    cases x with
    | nan => cases hfinite
    | infinity n => cases hfinite
    | finite n m e h =>
      show (if m = 0 then _ else _ : Single).isFinite ≠ true
      split <;> exact Bool.false_ne_true
  · have hlow := le_nearest (f := .single) (q := x.exact * y.exact) isFinite_zero
      (exact_eq_zero.trans_le (mul_nonneg h0 hpos))
    have hhigh := nearest_le hfinite' (mul_le_of_le_one_left hpos h1)
    obtain ⟨hprod, hlow, hhigh⟩ := exact_mem_of_value? (value?_mul hfinite hfinite') hlow hhigh
    rw [exact_eq_zero] at hlow
    refine ⟨fun _ => ⟨(zero_le_iff_exact hprod).2 hlow, (le_iff_exact hprod hfinite').2 hhigh⟩,
      fun hnot => ?_⟩
    rw [hprod] at hnot
    cases hnot

theorem Tally.Sound.add {t : Tally Single} (h : t.Sound) (hminor : InUnit settings.minorStrength)
    {field : String × Single} (hweight : 0 ≤ field.2) (r : Record) :
    (t.add settings r field).Sound := by
  rw [Tally.add]
  split
  · exact h.skip hweight
  split
  · exact h.grow hweight (fun hfinite => ⟨hweight, (le_iff_exact hfinite hfinite).2 le_rfl⟩)
      (eq_infinity hweight) _
  · exact h.grow hweight (minor_le hminor hweight).1 (minor_le hminor hweight).2 _

/-- Every tally of a record is sound. -/
theorem sound_tally (hminor : InUnit settings.minorStrength)
    (hweights : ∀ w ∈ settings.weights, 0 ≤ w.2) (r : Record) : (tally settings r).Sound := by
  have hfold (fields : List (String × Single)) (hfields : ∀ w ∈ fields, 0 ≤ w.2)
      (t : Tally Single) (h : t.Sound) : (fields.foldl (Tally.add settings r) t).Sound := by
    induction fields generalizing t with
    | nil => exact h
    | cons field fields ih =>
      exact ih (fun w hw => hfields w (List.mem_cons_of_mem _ hw)) _
        (h.add hminor (hfields field List.mem_cons_self) r)
  exact hfold settings.weights hweights ⟨0, 0, 0⟩ ⟨inUnit_zero.1,
    fun _ => ⟨inUnit_zero.1, inUnit_zero.1⟩, fun hnot => absurd hnot (by decide)⟩

/-- The weight that is present is finite if the whole weight is. -/
theorem Tally.Sound.isFinite_weighted {t : Tally Single} (h : t.Sound)
    (htotal : t.total.isFinite = true) : t.weighted.isFinite = true := by
  rw [← Bool.not_eq_false]
  intro hnot
  rw [h.total_eq hnot] at htotal
  cases htotal

/-! ### The score of the fields -/

/-- A finite weight makes a score between zero and one. -/
theorem Tally.Sound.inUnit_score {t : Tally Single} (h : t.Sound)
    (hfinite : t.weighted.isFinite = true) : InUnit t.score := by
  rw [Tally.score]
  split
  · rename_i hpos
    obtain ⟨h0, hle⟩ := h.le_total hfinite
    rcases nonneg_cases h.zero_le_total with hinf | ⟨hfinite', -⟩
    · -- a finite part of an infinite whole is none
      rw [hinf]
      cases hw : t.weighted with
      | nan => rw [hw] at hfinite; cases hfinite
      | infinity n => rw [hw] at hfinite; cases hfinite
      | finite n m e hc =>
        show InUnit (zero .single (n != false))
        cases n <;> decide
    -- the part is at most the whole, and the whole is positive
    · have hpos' : 0 < t.total.exact := by
        rw [lt_iff_exact isFinite_zero hfinite', exact_eq_zero] at hpos
        exact hpos
      exact inUnit_of_value? (value?_div hfinite hfinite' hpos'.ne')
        (div_nonneg (exact_nonneg hfinite h0) hpos'.le)
        (div_le_one_of_le₀ ((le_iff_exact hfinite hfinite').1 hle) hpos'.le)
  · exact inUnit_zero

/-- An infinite weight makes a score that is no number. -/
theorem Tally.Sound.score_eq_nan {t : Tally Single} (h : t.Sound)
    (hnot : t.weighted.isFinite = false) : t.score = nan := by
  have hpos : (0 : Single) < infinity false := by decide
  rw [Tally.score, h.total_eq hnot, if_pos hpos]
  cases hw : t.weighted with
  | nan => rfl
  | infinity n => rfl
  | finite n m e hc => rw [hw] at hnot; cases hnot

/-! ### The blend -/

/-- The largest finite number. -/
def largest : Single := ofParts .single false (2 ^ 24 - 1) 104

theorem isFinite_largest : largest.isFinite = true := by decide

theorem abs_exact_le_largest (hx : x.isFinite = true) : |x.exact| ≤ largest.exact := by
  cases x with
  | nan => cases hx
  | infinity n => cases hx
  | finite n m e h =>
    -- the greatest number has all its digits at the greatest exponent
    have hm : m ≤ 2 ^ 24 - 1 := Nat.le_sub_one_of_lt h.1
    have hlargest : largest.exact = ((2 ^ 24 - 1 : ℕ) : ℚ) * 2 ^ (104 : ℤ) := by decide +kernel
    have habs : |(finite n m e h).exact| = (m : ℚ) * 2 ^ e := by
      rw [exact_finite]
      have hnonneg : (0 : ℚ) ≤ m * 2 ^ e := mul_nonneg (Nat.cast_nonneg m) (two_zpow_pos e).le
      cases n <;> simp [signed, abs_of_nonneg hnonneg]
    rw [habs, hlargest]
    exact mul_le_mul (Nat.cast_le.2 hm) (two_zpow_le h.2.2.1) (two_zpow_pos e).le
      (Nat.cast_nonneg _)

/-- A product with a number between zero and one stays finite. -/
theorem isFinite_unit_mul (hx : InUnit x) (hy : y.isFinite = true) : (x * y).isFinite = true := by
  obtain ⟨hfinite, h0, h1⟩ := inUnit_iff.1 hx
  have hbound : |x.exact * y.exact| ≤ largest.exact := by
    rw [abs_mul, abs_of_nonneg h0]
    exact (mul_le_of_le_one_left (abs_nonneg _) h1).trans (abs_exact_le_largest hy)
  rw [abs_le, ← exact_neg] at hbound
  exact (exact_mem_of_value? (value?_mul hfinite hy)
    (le_nearest ((isFinite_neg _).trans isFinite_largest) hbound.1)
    (nearest_le isFinite_largest hbound.2)).1

/-- A number between zero and one does not move the largest number out of the range. -/
theorem isFinite_unit_add (hx : InUnit x) (hy : y.isFinite = true) : (x + y).isFinite = true := by
  obtain ⟨hfinite, h0, h1⟩ := inUnit_iff.1 hx
  have hbound := abs_le.1 (abs_exact_le_largest hy)
  rw [← exact_neg] at hbound
  have hlow : (neg largest).exact ≤ x.exact + y.exact := hbound.1.trans (le_add_of_nonneg_left h0)
  have hhigh : nearest .single (x.exact + y.exact) ≤ Extended.ofRat largest.exact := by
    -- adding one to the greatest number is lost in rounding
    have hsum : (1 + largest : Single) = largest := by decide
    have hvalue := value?_add (f := .single) (x := 1) (by decide) isFinite_largest
    rw [hsum, value?_of_isFinite isFinite_largest, exact_one, Option.some.injEq] at hvalue
    rw [hvalue]
    exact nearest_mono (add_le_add h1 hbound.2)
  exact (exact_mem_of_value? (value?_add hfinite hy)
    (le_nearest ((isFinite_neg _).trans isFinite_largest) hlow) hhigh).1

/-- What has a value is moved between zero and one. -/
theorem inUnit_clamp {a : Extended} (hx : x.value? = some a) : InUnit (clamp x) := by
  unfold clamp
  dsimp only
  by_cases h0 : x < 0
  · rw [if_pos h0]
    decide
  rw [if_neg h0]
  split
  · decide
  · rename_i h1
    have hone : (1 : Single).value? = some (Extended.ofRat 1) :=
      exact_one ▸ value?_of_isFinite (by decide)
    constructor
    · refine zero_le_iff.2 ⟨a, hx, not_lt.1 fun hlt => h0 ?_⟩
      exact (lt_iff_of_value? hx).2 ⟨0, value?_zero false, hlt⟩
    · refine (le_iff_of_value? hx).2 ⟨_, hone, not_lt.1 fun hlt => h1 ?_⟩
      exact (lt_iff_of_value? hone).2 ⟨a, hx, hlt⟩

/-- Subtracting penalties, which may be infinite, leaves something that has a value. -/
theorem exists_value?_sub (hx : x.isFinite = true) (hy : 0 ≤ y) : ∃ a, (x - y).value? = some a := by
  rcases nonneg_cases hy with rfl | ⟨hfinite, -⟩
  · cases x with
    | nan => cases hx
    | infinity n => cases hx
    | finite n m e h => exact ⟨⊥, rfl⟩
  · exact ⟨_, value?_sub hx hfinite⟩

/-- A score and a coverage in their ranges are blended between zero and one. -/
theorem inUnit_blend (halpha : InUnit settings.alpha) (hcap : InUnit settings.cap) (hx : InUnit x)
    (hy : y.isFinite = true) {penalties : Single} (hpenalties : 0 ≤ penalties) (n : Nat) :
    InUnit (blend settings x y n penalties).1 := by
  have hsum := isFinite_unit_add (inUnit_mul halpha hx)
    (isFinite_unit_mul (inUnit_one_sub halpha) hy)
  obtain ⟨a, ha⟩ := exists_value?_sub hsum hpenalties
  rw [blend_fst]
  dsimp only
  split
  · exact hcap
  · exact inUnit_clamp ha

/-- An undefined score passes through every stage. -/
theorem blend_nan (y penalties : Single) (n : Nat) :
    (blend settings nan y n penalties).1 = nan := by
  have hmul : settings.alpha * nan = nan := by
    show mul settings.alpha nan = nan
    cases settings.alpha <;> rfl
  have hclamp : clamp (nan : Single) = nan := by decide
  have hsub : nan + (1 - settings.alpha) * y - penalties = nan := rfl
  rw [blend_fst, hmul, hsub, hclamp]
  refine if_neg fun h => ?_
  obtain ⟨a, -, b, hb, -⟩ := lt_iff.1 h.2
  cases hb

/-! ### Confidence -/

theorem isFinite_bucketScore (hbuckets : ∀ b ∈ settings.buckets, b.score.isFinite = true)
    (c : Single) : (bucketScore settings c).isFinite = true := by
  rcases bucketScore_cases settings c with h | ⟨b, hb, -, h⟩
  · exact h ▸ isFinite_zero
  · exact h ▸ hbuckets b hb

/-- Penalties are not negative. -/
theorem zero_le_penaltiesOf (hfee : 0 ≤ settings.penalties.feeAmount)
    (hcount : 0 ≤ settings.penalties.count) (r : Record) : 0 ≤ penaltiesOf settings r := by
  have hzero := inUnit_zero.1
  -- the penalty for malformed counts is added last
  have htotal : ∀ total : Single, 0 ≤ total →
      0 ≤ if r.hasMalformed then total + settings.penalties.count else total := by
    intro total h
    split
    · exact zero_le_add h hcount
    · exact h
  refine htotal _ ?_
  split
  · split
    · exact hzero
    · exact zero_le_add hzero hfee
  · exact hzero

/-- Under settings without fault the confidence is a number between zero and one exactly if the
weight that is present is finite, and otherwise it is not a number.  It is always one if the sum of
all weights is finite. -/
theorem value_inUnit_iff {s : CancellationPolicy.Settings} (h : s.fault? = none) (r : Record)
    (spans : List Span) (text : String) :
    let t := tally s.confidence r
    let c := (score s.confidence r spans text).value
    ((0 ≤ c ∧ c ≤ 1) ↔ t.weighted.isFinite = true) ∧ (c = nan ↔ t.weighted.isFinite = false) ∧
      (t.total.isFinite = true → 0 ≤ c ∧ c ≤ 1) := by
  intro t c
  have haccepted := Settings.fault?_eq_none_iff.1 h
  have hsound : t.Sound := sound_tally haccepted.minorStrength haccepted.weights r
  -- a finite weight leads to the range, an infinite one to what is no number, and no third case is
  -- left
  have hfinite : t.weighted.isFinite = true → InUnit c := fun hw =>
    inUnit_blend haccepted.alpha haccepted.cap (hsound.inUnit_score hw)
      (isFinite_bucketScore (fun b hb => (haccepted.buckets b hb).2) _)
      (zero_le_penaltiesOf haccepted.feeAmount haccepted.count r) _
  have hnan : t.weighted.isFinite = false → c = nan := by
    intro hw
    show (blend s.confidence t.score _ t.critical _).1 = nan
    rw [hsound.score_eq_nan hw, blend_nan]
  have hnot : ¬InUnit nan := fun h => not_le_nan _ h.1
  refine ⟨⟨fun hc => ?_, hfinite⟩, ⟨fun hc => ?_, hnan⟩,
    fun htotal => hfinite (hsound.isFinite_weighted htotal)⟩
  · rw [← Bool.not_eq_false]
    exact fun hw => hnot (hnan hw ▸ hc)
  · rw [← Bool.not_eq_true]
    exact fun hw => hnot (hc ▸ hfinite hw)

/-- By default, a fee in percent makes a confidence that is not negative. -/
theorem value_inUnit_iff_default :
    CancellationPolicy.Settings.default.fault? = none ∧
      (tally Settings.default (Record.new.write "fee.percent" (.text "50%"))).total.isFinite = true ∧
      0 ≤ (score Settings.default (Record.new.write "fee.percent" (.text "50%"))
        [.between 0 3] "50% OFF").value := by
  have h : CancellationPolicy.Settings.default.fault? = none := by decide +kernel
  have htotal : (tally Settings.default
      (Record.new.write "fee.percent" (.text "50%"))).total.isFinite = true := by decide +kernel
  obtain ⟨-, -, hunit⟩ := value_inUnit_iff h (Record.new.write "fee.percent" (.text "50%"))
    [.between 0 3] "50% OFF"
  exact ⟨h, htotal, (hunit htotal).1⟩

/-- A document of settings with a weight beyond the finite numbers. -/
def heavyDocument : String :=
  "\x7b\"scoring\": \x7b\"confidence\": \x7b\"field_weights\": \x7b\"fee.percent\": 1e39\x7d\x7d\x7d\x7d"

/-- Settings that were read without fault under which the confidence in a record is not a number. -/
theorem value_eq_nan_of_read :
    ∃ s, CancellationPolicy.Settings.read heavyDocument = .ok s ∧ s.fault? = none ∧
      (score s.confidence (Record.new.write "fee.percent" (.text "50%")) [.between 0 3]
        "50% OFF").value = nan := by
  refine ⟨{ CancellationPolicy.Settings.default with
    confidence := { Settings.default with weights := [("fee.percent", infinity false)] } }, ?_⟩
  decide +kernel

end CancellationPolicy.Confidence
