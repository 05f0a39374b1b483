import CancellationPolicy.Proofs.Floating.TotalOrder
import CancellationPolicy.Proofs.Scoring.Bucket
import CancellationPolicy.Settings.Basic

/-!
# The score of the highest bucket

Whether a bucket is met is a question of value, and the greatest minimum is one of the total order
of numbers, which tells the two zeros apart.  Both orders agree on the minima that are met, so the
chosen bucket has the greatest of these by value too (`IsHighest.le`).

Different minima never come out equal in the total order.  So where no two buckets share a minimum,
the highest one does not depend on how they are listed (`bucket?_perm`).  Together with the step
from one coverage to a greater one (`bucketScore_of_le`) this settles what the score of a coverage
is, for any buckets (`bucketScore_highest`).
-/

namespace CancellationPolicy.Confidence

open Binary

variable {buckets buckets' : List (Bucket Single)} {b d : Bucket Single} {c c' : Single}

/-! ### The greatest minimum -/

/-- The highest bucket has the greatest minimum that is met. -/
theorem IsHighest.le (h : IsHighest buckets c b) (hd : d ∈ buckets) (hdc : d.least ≤ c) :
    d.least ≤ b.least :=
  le_of_isLE_compare (h.isLE_compare hd hdc) hdc h.met

/-! ### Other orders of the buckets -/

/-- Two buckets do not share a minimum, unless it is one that no coverage meets. -/
def Apart (a b : Bucket Single) : Prop := a.least = b.least → a.least = nan

instance : DecidableRel Apart := fun a b =>
  inferInstanceAs (Decidable (a.least = b.least → a.least = nan))

instance : Std.Symm Apart := ⟨fun _ _ h heq => heq.trans (h heq.symm)⟩

/-- The highest bucket does not depend on the order of the buckets. -/
theorem IsHighest.eq_of_perm (h : IsHighest buckets c b) (h' : IsHighest buckets' c d)
    (hperm : buckets'.Perm buckets) (hapart : buckets.Pairwise Apart) : b = d := by
  have hd : d ∈ buckets := hperm.mem_iff.1 h'.mem
  have hle := h.isLE_compare hd h'.met
  have hge := h'.isLE_compare (hperm.mem_iff.2 h.mem) h.met
  have hleast : b.least = d.least := eq_of_compare_eq (Std.OrientedCmp.isLE_antisymm hge hle)
  by_contra hne
  have hnan : b.least = nan := hapart.forall h.mem hd hne hleast
  exact not_nan_le c (hnan ▸ h.met)

theorem bucket?_perm (hperm : buckets'.Perm buckets) (hapart : buckets.Pairwise Apart)
    (c : Single) : bucket? buckets' c = bucket? buckets c := by
  cases h : bucket? buckets c with
  | none =>
    rw [bucket?_eq_none_iff] at h ⊢
    exact fun a ha => h a (hperm.mem_iff.1 ha)
  | some b =>
    obtain ⟨hmem, hle⟩ := bucket?_eq_some h
    cases h' : bucket? buckets' c with
    | none => exact absurd hle (bucket?_eq_none_iff.1 h' b (hperm.mem_iff.2 hmem))
    | some d =>
      rw [bucket?_eq_some_iff] at h h'
      rw [h.eq_of_perm h' hperm hapart]

/-! ### The score -/

variable {settings : Settings Single}

/-- The score of a bucket grows with the coverage if the scores grow with the buckets. -/
theorem bucketScore_single_mono (hscore : ∀ b ∈ settings.buckets, 0 ≤ b.score)
    (hmono : ∀ a ∈ settings.buckets, ∀ b ∈ settings.buckets,
      a.least < b.least → a.score ≤ b.score) (hle : c ≤ c') :
    bucketScore settings c ≤ bucketScore settings c' := by
  -- the greater coverage meets the same bucket or a higher one, and every score is at least zero
  have hnonneg (c : Single) : 0 ≤ bucketScore settings c := by
    rcases bucketScore_cases settings c with h | ⟨b, hb, -, h⟩
    · rw [h]
      decide
    · exact h ▸ hscore b hb
  by_cases hc : 0 < c
  · rcases bucketScore_of_le settings hc (lt_of_lt_of_le hc hle) hle with
      heq | ⟨b, hb, hbc', hbc, hb'⟩
    · rw [heq]
      exact le_self_of_le (hnonneg c)
    · rcases bucketScore_cases settings c with h | ⟨a, ha, hac, h⟩
      · exact h ▸ hnonneg c'
      · rw [h, hb']
        exact hmono a ha b hb (lt_of_not_le hac hbc' hbc)
  · rw [bucketScore_of_not_pos hc]
    exact hnonneg c'

/-- Take any buckets.  A coverage that is not positive, or that meets no minimum, has no score.  Any
other one has the score of the bucket with the greatest minimum that it meets, the last one of those
with the same.  The order of the buckets does not matter if no two share a minimum.  If the scores
are not negative and do not fall with the minimum, a greater coverage has no lesser score. -/
theorem bucketScore_highest (settings : Settings Single) :
    (∀ c, (¬0 < c ∨ ∀ b ∈ settings.buckets, ¬b.least ≤ c) → bucketScore settings c = 0) ∧
    (∀ c, 0 < c → (∃ b ∈ settings.buckets, b.least ≤ c) →
      ∃ b, IsHighest settings.buckets c b ∧
        (∀ a ∈ settings.buckets, a.least ≤ c → a.least ≤ b.least) ∧
        bucketScore settings c = b.score) ∧
    (settings.buckets.Pairwise Apart → ∀ buckets, buckets.Perm settings.buckets →
      ∀ c, bucketScore { settings with buckets } c = bucketScore settings c) ∧
    ((∀ b ∈ settings.buckets, 0 ≤ b.score) →
      (∀ a ∈ settings.buckets, ∀ b ∈ settings.buckets, a.least < b.least → a.score ≤ b.score) →
      ∀ c c', c ≤ c' → bucketScore settings c ≤ bucketScore settings c') := by
  refine ⟨?_, ?_, ?_, ?_⟩
  · rintro c (hc | hnone)
    · exact bucketScore_of_not_pos hc
    · exact bucketScore_of_none (bucket?_eq_none_iff.2 hnone)
  · rintro c hc ⟨a, ha, hac⟩
    cases hb : bucket? settings.buckets c with
    | none => exact absurd hac (bucket?_eq_none_iff.1 hb a ha)
    | some b =>
      have hhighest := bucket?_eq_some_iff.1 hb
      exact ⟨b, hhighest, fun d hd hdc => hhighest.le hd hdc, bucketScore_of_some hc hb⟩
  · intro hapart buckets hperm c
    rw [bucketScore, bucketScore, bucket?_perm hperm hapart]
  · intro hscore hmono c c' hle
    exact bucketScore_single_mono hscore hmono hle

/-- The default buckets are apart and rise, so all of this holds of them. -/
theorem bucketScore_highest_default :
    bucketScore Settings.default 0 = 0 ∧
    (∃ b, IsHighest Settings.default.buckets (hundredths 50) b ∧
      bucketScore Settings.default (hundredths 50) = b.score) ∧
    Settings.default.buckets.Pairwise Apart ∧
    bucketScore { Settings.default with buckets := Settings.default.buckets.reverse }
      (hundredths 50) = bucketScore Settings.default (hundredths 50) ∧
    (∀ b ∈ Settings.default.buckets, 0 ≤ b.score) ∧
    (∀ a ∈ Settings.default.buckets, ∀ b ∈ Settings.default.buckets,
      a.least < b.least → a.score ≤ b.score) ∧
    bucketScore Settings.default (hundredths 20) ≤
      bucketScore Settings.default (hundredths 90) := by
  obtain ⟨hzero, hhighest, hperm, hmono⟩ := bucketScore_highest Settings.default
  have hapart : Settings.default.buckets.Pairwise Apart := by decide +kernel
  have hscore : ∀ b ∈ Settings.default.buckets, 0 ≤ b.score := by decide +kernel
  have hrise : ∀ a ∈ Settings.default.buckets, ∀ b ∈ Settings.default.buckets,
      a.least < b.least → a.score ≤ b.score := by decide +kernel
  obtain ⟨b, hb, -, hbscore⟩ := hhighest (hundredths 50) (by decide +kernel) (by decide +kernel)
  refine ⟨hzero 0 (.inl (by decide)), ⟨b, hb, hbscore⟩, hapart, ?_, hscore, hrise, ?_⟩
  · exact hperm hapart _ (List.reverse_perm _) (hundredths 50)
  · exact hmono hscore hrise _ _ (by decide +kernel)

/-- A minimum of zero comes behind one of negative zero, although the latter is listed later. -/
example : bucket? [⟨0, hundredths 60⟩, ⟨-0, hundredths 30⟩] (hundredths 50) =
    some ⟨0, hundredths 60⟩ := by decide +kernel

end CancellationPolicy.Confidence
