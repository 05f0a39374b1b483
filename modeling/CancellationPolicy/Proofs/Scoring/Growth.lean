import CancellationPolicy.Proofs.Floating.Operations
import CancellationPolicy.Proofs.Record.FirstWrite
import CancellationPolicy.Proofs.Scoring.Blend
import CancellationPolicy.Proofs.Scoring.Bucket
import CancellationPolicy.Proofs.Scoring.Decision
import CancellationPolicy.Proofs.Settings.Accepted
import CancellationPolicy.Proofs.Span.Union
import Mathlib.Algebra.Order.Field.Rat

/-!
# More evidence does not lower the confidence

Over the rationals, where nothing is rounded, every stage of the confidence keeps the order: the
share of the weight that is present, the score of the coverage, the blend of both, the range from
zero to one, and the cap, which more critical fields can only lift.  So a record that keeps what it
held and more spans do not lower the confidence as long as the penalties stay as they are
(`score_mono`).

`Settings.exact` reads the numbers of settings as rationals, so that this can be said of the
settings of a program (`score_writeAll_append`).
-/

namespace CancellationPolicy

/-- Settings with every number replaced by another. -/
def Confidence.Settings.map {α β : Type} (g : α → β) (s : Settings α) : Settings β where
  alpha := g s.alpha
  weights := List.map (fun w => (w.1, g w.2)) s.weights
  critical := s.critical
  minorStrength := g s.minorStrength
  buckets := s.buckets.map fun b => ⟨g b.least, g b.score⟩
  minCritical := s.minCritical
  cap := g s.cap
  penalties := ⟨g s.penalties.feeAmount, g s.penalties.count⟩
  threshold := g s.threshold

/-- Settings with their numbers as rationals. -/
def Confidence.Settings.exact (s : Settings Single) : Settings ℚ := s.map Binary.exact

theorem Record.keeps_writeAll (r : Record) (fields : List (String × Value)) :
    (r.writeAll fields).Keeps r := fun _ _ h => get?_writeAll_of_eq_some h fields

/-- Further spans cover no less. -/
theorem coverage_mono (ss ts : List Span) (length : Nat) :
    (coverage ss length : ℚ) ≤ coverage (ss ++ ts) length := by
  have hnonneg : (0 : ℚ) ≤ coverage (ss ++ ts) length := by
    unfold coverage
    split
    · exact le_rfl
    · exact div_nonneg (Nat.cast_nonneg _) (Nat.cast_nonneg _)
  by_cases h : (ss.isEmpty || length == 0) = true
  · rw [coverage, if_pos h]
    exact hnonneg
  · -- the longer list is not empty either, so both coverages are quotients
    have h' : ¬((ss ++ ts).isEmpty || length == 0) = true := by
      simp only [Bool.or_eq_true, List.isEmpty_iff, List.append_eq_nil_iff] at h ⊢
      exact mt (Or.imp_left And.left) h
    rw [coverage, if_neg h, coverage, if_neg h']
    exact div_le_div_of_nonneg_right (Nat.cast_le.2 (Span.covered_le_covered_append ss ts))
      (Nat.cast_nonneg _)

namespace Confidence

variable {settings : Settings ℚ} {r r' : Record}

/-! ### Fields -/

/-- Whether a tally counts no less as present than another one of the same fields. -/
structure Tally.Le (t t' : Tally ℚ) : Prop where
  /-- No less weight is present. -/
  weighted : t.weighted ≤ t'.weighted
  /-- The whole weight is the same. -/
  total : t.total = t'.total
  /-- No fewer critical fields are present. -/
  critical : t.critical ≤ t'.critical

theorem Tally.Le.add {t t' : Tally ℚ} (h : t.Le t') (hminor : 0 ≤ settings.minorStrength)
    (hkeeps : r'.Keeps r) {field : String × ℚ} (hweight : 0 ≤ field.2) :
    (t.add settings r field).Le (t'.add settings r' field) := by
  have htotal : t.total + field.2 = t'.total + field.2 := by rw [h.total]
  have hpart : 0 ≤ settings.minorStrength * field.2 := mul_nonneg hminor hweight
  by_cases hr : r.isPresent field.1 = true
  · -- the field is present in both records, and counts alike
    have hr' := hkeeps.isPresent hr
    simp only [Tally.add, hr, hr', Bool.not_true, Bool.false_eq_true, if_false]
    split
    · exact ⟨add_le_add_left h.weighted _, htotal, Nat.add_le_add_right h.critical 1⟩
    · exact ⟨add_le_add_left h.weighted _, htotal, h.critical⟩
  · simp only [Tally.add, hr, Bool.not_false, if_true]
    split
    · exact ⟨h.weighted, htotal, h.critical⟩
    -- the field is present in the greater record only, and adds its weight there, or a part of it
    · split
      · exact ⟨h.weighted.trans (le_add_of_nonneg_right hweight), htotal,
          Nat.le_succ_of_le h.critical⟩
      · exact ⟨h.weighted.trans (le_add_of_nonneg_right hpart), htotal, h.critical⟩

/-- A record that keeps more is tallied no lower. -/
theorem tally_le (hminor : 0 ≤ settings.minorStrength)
    (hweights : ∀ w ∈ settings.weights, 0 ≤ w.2) (hkeeps : r'.Keeps r) :
    (tally settings r).Le (tally settings r') := by
  have hfold (fields : List (String × ℚ)) (hfields : ∀ w ∈ fields, 0 ≤ w.2) (t t' : Tally ℚ)
      (h : t.Le t') : (fields.foldl (Tally.add settings r) t).Le
        (fields.foldl (Tally.add settings r') t') := by
    induction fields generalizing t t' with
    | nil => exact h
    | cons field fields ih =>
      exact ih (fun w hw => hfields w (List.mem_cons_of_mem _ hw)) _ _
        (h.add hminor hkeeps (hfields field List.mem_cons_self))
  exact hfold settings.weights hweights _ _ ⟨le_rfl, rfl, Nat.le_refl _⟩

theorem Tally.Le.score {t t' : Tally ℚ} (h : t.Le t') : t.score ≤ t'.score := by
  rw [Tally.score, Tally.score, h.total]
  split
  · rename_i htotal
    exact div_le_div_of_nonneg_right h.weighted htotal.le
  · exact le_rfl

/-! ### Confidence -/

/-- Whether more evidence has a greater score under settings. -/
structure Settings.Rewarding (settings : Settings ℚ) : Prop where
  /-- The share of the field score is not negative. -/
  zero_le_alpha : 0 ≤ settings.alpha
  /-- The share of the coverage score is not negative. -/
  alpha_le_one : settings.alpha ≤ 1
  /-- A field does not count against the record. -/
  zero_le_minor : 0 ≤ settings.minorStrength
  /-- No weight is negative. -/
  weights : ∀ w ∈ settings.weights, 0 ≤ w.2
  /-- No score of a coverage is negative. -/
  scores : ∀ b ∈ settings.buckets, 0 ≤ b.score
  /-- Greater coverages do not have lesser scores. -/
  mono : ∀ a ∈ settings.buckets, ∀ b ∈ settings.buckets, a.least < b.least → a.score ≤ b.score

/-- With the same penalties, keeping more and covering more makes a score no lower. -/
theorem score_mono (h : settings.Rewarding) (hkeeps : r'.Keeps r)
    (hpenalties : penaltiesOf settings r' = penaltiesOf settings r) (ss ts : List Span)
    (text : String) :
    (score settings r ss text).value ≤ (score settings r' (ss ++ ts) text).value ∧
      (score settings r ss text).critical ≤ (score settings r' (ss ++ ts) text).critical := by
  have htally := tally_le h.zero_le_minor h.weights hkeeps
  have hscore := bucketScore_mono h.scores h.mono (coverage_mono ss ts text.utf8ByteSize)
  refine ⟨?_, htally.critical⟩
  show (blend settings _ _ _ (penaltiesOf settings r)).1 ≤
    (blend settings _ _ _ (penaltiesOf settings r')).1
  rw [hpenalties]
  exact blend_mono h.zero_le_alpha h.alpha_le_one htally.score hscore htally.critical le_rfl

theorem rewarding_exact {s : CancellationPolicy.Settings} (h : s.Accepted) (hfinite : s.IsFinite)
    (hscores : ∀ b ∈ s.confidence.buckets, 0 ≤ b.score)
    (hmono : ∀ a ∈ s.confidence.buckets, ∀ b ∈ s.confidence.buckets,
      a.least < b.least → a.score ≤ b.score) : s.confidence.exact.Rewarding := by
  have hnumbers {x : Single} (hx : x ∈ s.confidence.numbers) : x.isFinite = true :=
    hfinite x (List.mem_append_left _ hx)
  have halpha := hnumbers (x := s.confidence.alpha) (by simp [Settings.numbers])
  have hminor := hnumbers (x := s.confidence.minorStrength) (by simp [Settings.numbers])
  constructor
  · exact Binary.exact_nonneg halpha h.alpha.1
  · exact Binary.exact_le_one halpha h.alpha.2
  · exact Binary.exact_nonneg hminor h.minorStrength.1
  · intro w hw
    -- what holds of the numbers of 32 bits holds of their exact values
    obtain ⟨v, hv, rfl⟩ := List.mem_map.1 hw
    have hv' : v.2 ∈ s.confidence.weights.map Prod.snd := List.mem_map_of_mem hv
    exact Binary.exact_nonneg (hnumbers (by simp [Settings.numbers, hv'])) (h.weights v hv)
  · intro b hb
    obtain ⟨d, hd, rfl⟩ := List.mem_map.1 hb
    exact Binary.exact_nonneg (h.buckets d hd).2 (hscores d hd)
  · intro a ha b hb hlt
    obtain ⟨c, hc, rfl⟩ := List.mem_map.1 ha
    obtain ⟨d, hd, rfl⟩ := List.mem_map.1 hb
    rw [← Binary.lt_iff_exact (h.buckets c hc).1 (h.buckets d hd).1] at hlt
    exact (Binary.le_iff_exact (h.buckets c hc).2 (h.buckets d hd).2).1 (hmono c hc d hd hlt)

/-- Take finite settings without fault, whose scores of coverages are not negative and do not fall
with the minimum.  Then further writes to a record and further spans do not lower the confidence,
in exact arithmetic, as long as the penalties stay the same, and neither the count of critical
fields. -/
theorem score_writeAll_append {s : CancellationPolicy.Settings} (hs : s.fault? = none)
    (hfinite : s.IsFinite) (hscores : ∀ b ∈ s.confidence.buckets, 0 ≤ b.score)
    (hmono : ∀ a ∈ s.confidence.buckets, ∀ b ∈ s.confidence.buckets,
      a.least < b.least → a.score ≤ b.score)
    (fields more : List (String × Value)) (ss ts : List Span) (text : String)
    (hpenalties : penaltiesOf s.confidence.exact ((Record.new.writeAll fields).writeAll more) =
      penaltiesOf s.confidence.exact (Record.new.writeAll fields)) :
    let c := score s.confidence.exact (Record.new.writeAll fields) ss text
    let c' := score s.confidence.exact ((Record.new.writeAll fields).writeAll more) (ss ++ ts) text
    c.value ≤ c'.value ∧ c.critical ≤ c'.critical :=
  score_mono (rewarding_exact (Settings.fault?_eq_none_iff.1 hs) hfinite hscores hmono)
    (Record.keeps_writeAll _ more) hpenalties ss ts text

/-- Fields of which one holds no count, although it should. -/
def twoNights : List (String × Value) :=
  [("fee.nights", .text "TWO"), ("fee.currency", .text "EUR")]

/-- Fields that come in addition. -/
def halfFee : List (String × Value) :=
  [("fee.percent", .text "50%"), ("deadline.iso", .text "2025-01-01T12:00"), ("fee", .text "x")]

/-- A fee of half the price behind one of two nights lowers no score by default. -/
theorem score_writeAll_append_halfFee :
    CancellationPolicy.Settings.default.fault? = none ∧
    CancellationPolicy.Settings.default.IsFinite ∧
    (∀ b ∈ Settings.default.buckets, 0 ≤ b.score) ∧
    (∀ a ∈ Settings.default.buckets, ∀ b ∈ Settings.default.buckets,
      a.least < b.least → a.score ≤ b.score) ∧
    penaltiesOf Settings.default.exact ((Record.new.writeAll twoNights).writeAll halfFee) =
      penaltiesOf Settings.default.exact (Record.new.writeAll twoNights) ∧
    (score Settings.default.exact (Record.new.writeAll twoNights) [.between 0 3]
        "TWO NIGHTS OR HALF").value ≤
      (score Settings.default.exact ((Record.new.writeAll twoNights).writeAll halfFee)
        ([.between 0 3] ++ [.between 14 18, .between 2 6]) "TWO NIGHTS OR HALF").value := by
  have hs : CancellationPolicy.Settings.default.fault? = none := by decide
  have hfinite : CancellationPolicy.Settings.default.IsFinite := by decide
  have hscores : ∀ b ∈ Settings.default.buckets, 0 ≤ b.score := by decide
  have hmono : ∀ a ∈ Settings.default.buckets, ∀ b ∈ Settings.default.buckets,
      a.least < b.least → a.score ≤ b.score := by decide
  have hpenalties :
      penaltiesOf Settings.default.exact ((Record.new.writeAll twoNights).writeAll halfFee) =
        penaltiesOf Settings.default.exact (Record.new.writeAll twoNights) := by decide +kernel
  obtain ⟨hvalue, -⟩ := score_writeAll_append hs hfinite hscores hmono twoNights halfFee
    [.between 0 3] [.between 14 18, .between 2 6] "TWO NIGHTS OR HALF" hpenalties
  exact ⟨hs, hfinite, hscores, hmono, hpenalties, hvalue⟩

end Confidence

end CancellationPolicy
