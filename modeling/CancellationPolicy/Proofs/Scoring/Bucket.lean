import CancellationPolicy.Scoring.Confidence
import Mathlib.Data.List.Induction
import Mathlib.Algebra.Order.Ring.Rat

/-!
# The bucket of a coverage

A bucket is the highest one for a coverage if the coverage meets its minimum and no bucket with a
greater minimum that is met, and none with the same minimum further on (`IsHighest`).  There is at
most one (`IsHighest.eq`), and the scan of the buckets finds it (`bucket?_eq_some_iff`).

A greater coverage meets all minima that a lesser one does.  So its bucket is the same one or one
whose minimum the lesser coverage does not meet (`bucket?_of_le`, `bucketScore_of_le`).
-/

namespace CancellationPolicy.Confidence

variable {α : Type}

/-! ### The highest bucket -/

section

variable [LE α] [Ord α] {b d : Bucket α} {bs buckets : List (Bucket α)} {c : α}

/-- A bucket whose minimum a coverage meets.  None with a greater minimum that is met stands
anywhere in the list, and none with the same minimum behind it. -/
structure IsHighestOf (before : List (Bucket α)) (b : Bucket α) (after : List (Bucket α))
    (c : α) : Prop where
  /-- The minimum is met. -/
  met : b.least ≤ c
  /-- What stands in front has no greater minimum. -/
  before : ∀ a ∈ before, a.least ≤ c → (compare a.least b.least).isLE = true
  /-- What stands behind has a lesser one. -/
  after : ∀ a ∈ after, a.least ≤ c → compare a.least b.least = .lt

/-- The bucket of a list with the greatest minimum that a coverage meets, the last one of those with
the same minimum. -/
def IsHighest (buckets : List (Bucket α)) (c : α) (b : Bucket α) : Prop :=
  ∃ before after, buckets = before ++ b :: after ∧ IsHighestOf before b after c

theorem IsHighest.mem (h : IsHighest buckets c b) : b ∈ buckets := by
  obtain ⟨before, after, rfl, -⟩ := h
  exact List.mem_append_right _ List.mem_cons_self

theorem IsHighest.met (h : IsHighest buckets c b) : b.least ≤ c := by
  obtain ⟨_, _, _, hof⟩ := h
  exact hof.met

/-- A bucket that is not met, or whose minimum is lesser, may follow. -/
theorem IsHighest.append_singleton (h : IsHighest bs c b)
    (hd : d.least ≤ c → compare d.least b.least = .lt) : IsHighest (bs ++ [d]) c b := by
  obtain ⟨before, after, rfl, hof⟩ := h
  refine ⟨before, after ++ [d], by simp, hof.met, hof.before, ?_⟩
  intro a ha
  rcases List.mem_append.1 ha with ha | ha
  · exact hof.after a ha
  · rw [List.mem_singleton.1 ha]
    exact hd

/-- A bucket that is met is not above the highest one. -/
theorem IsHighest.isLE_compare [Std.TransOrd α] {a : Bucket α} (h : IsHighest buckets c b)
    (ha : a ∈ buckets) (hac : a.least ≤ c) : (compare a.least b.least).isLE = true := by
  obtain ⟨before, after, rfl, hof⟩ := h
  rcases List.mem_append.1 ha with ha | ha
  · exact hof.before a ha hac
  · rcases List.mem_cons.1 ha with rfl | ha
    · exact Std.ReflCmp.isLE_rfl
    · rw [hof.after a ha hac]
      rfl

/-- There is at most one highest bucket. -/
theorem IsHighest.eq [Std.TransOrd α] (h : IsHighest buckets c b)
    (h' : IsHighest buckets c d) : b = d := by
  obtain ⟨before, after, rfl, hof⟩ := h
  obtain ⟨before', after', heq, hof'⟩ := h'
  -- one in front of the other would have a greater minimum and one that is not greater
  have hfalse {x y : Bucket α} (hlt : compare y.least x.least = .lt)
      (hle : (compare x.least y.least).isLE = true) : False := by
    rw [Std.OrientedCmp.gt_of_lt hlt] at hle
    cases hle
  rcases List.append_eq_append_iff.1 heq with ⟨l, rfl, hl⟩ | ⟨l, rfl, hl⟩
  · cases l with
    | nil => exact (List.cons.inj hl).1
    | cons x l =>
      obtain ⟨rfl, rfl⟩ := List.cons.inj hl
      exact (hfalse (hof.after d (by simp) hof'.met) (hof'.before b (by simp) hof.met)).elim
  · cases l with
    | nil => exact (List.cons.inj hl).1.symm
    | cons x l =>
      obtain ⟨rfl, rfl⟩ := List.cons.inj hl
      exact (hfalse (hof'.after b (by simp) hof.met) (hof.before d (by simp) hof'.met)).elim

/-! ### The scan -/

variable [DecidableLE α]

/-- The best bucket once another one is looked at. -/
def better (c : α) (best : Option (Bucket α)) (b : Bucket α) : Option (Bucket α) :=
  if b.least ≤ c then
    match best with
    | some a => if compare a.least b.least = .gt then some a else some b
    | none => some b
  else best

/-- The last bucket is compared with the best one before it. -/
theorem bucket?_append_singleton (bs : List (Bucket α)) (d : Bucket α) (c : α) :
    bucket? (bs ++ [d]) c = better c (bucket? bs c) d :=
  List.foldl_append

theorem better_of_not_le {best : Option (Bucket α)} (h : ¬d.least ≤ c) :
    better c best d = best := if_neg h

theorem better_none (h : d.least ≤ c) : better c none d = some d := if_pos h

theorem better_some (h : d.least ≤ c) (a : Bucket α) :
    better c (some a) d = if compare a.least d.least = .gt then some a else some d := if_pos h

/-- No bucket is found exactly if none is met. -/
theorem bucket?_eq_none_iff : bucket? buckets c = none ↔ ∀ a ∈ buckets, ¬a.least ≤ c := by
  induction buckets using List.reverseRecOn with
  | nil => simp [bucket?]
  | append_singleton bs d ih =>
    rw [bucket?_append_singleton, List.forall_mem_append, ← ih, List.forall_mem_singleton]
    by_cases hd : d.least ≤ c
    · cases bucket? bs c with
      | none => simp [better_none hd, hd]
      | some a =>
        rw [better_some hd]
        split <;> simp
    · simp [better_of_not_le hd, hd]

variable [Std.TransOrd α]

theorem isHighest_of_bucket? (h : bucket? buckets c = some b) : IsHighest buckets c b := by
  induction buckets using List.reverseRecOn generalizing b with
  | nil => cases h
  | append_singleton bs d ih =>
    rw [bucket?_append_singleton] at h
    by_cases hd : d.least ≤ c
    · cases hbest : bucket? bs c with
      | none =>
        have hnone := bucket?_eq_none_iff.1 hbest
        rw [hbest, better_none hd, Option.some.injEq] at h
        subst h
        exact ⟨bs, [], rfl, hd, fun a ha hac => absurd hac (hnone a ha), by simp⟩
      | some a =>
        have ha := ih hbest
        rw [hbest, better_some hd] at h
        split at h
        · rename_i hgt
          obtain rfl := Option.some.inj h
          exact ha.append_singleton fun _ => Std.OrientedCmp.lt_of_gt hgt
        · rename_i hgt
          obtain rfl := Option.some.inj h
          -- whatever was met so far has no greater minimum than the best, which has no greater one
          have had : (compare a.least d.least).isLE = true := Ordering.isLE_iff_ne_gt.2 hgt
          exact ⟨bs, [], rfl, hd,
            fun x hx hxc => Std.TransCmp.isLE_trans (ha.isLE_compare hx hxc) had, by simp⟩
    · rw [better_of_not_le hd] at h
      exact (ih h).append_singleton fun hle => absurd hle hd

/-- The scan of the buckets finds the highest one. -/
theorem bucket?_eq_some_iff : bucket? buckets c = some b ↔ IsHighest buckets c b := by
  constructor
  · exact isHighest_of_bucket?
  · intro h
    cases hb : bucket? buckets c with
    | none => exact absurd h.met (bucket?_eq_none_iff.1 hb b h.mem)
    | some d => rw [(isHighest_of_bucket? hb).eq h]

/-- The chosen bucket is one of the buckets, and the coverage meets its minimum. -/
theorem bucket?_eq_some (h : bucket? buckets c = some b) :
    b ∈ buckets ∧ b.least ≤ c :=
  have hb := bucket?_eq_some_iff.1 h
  ⟨hb.mem, hb.met⟩

/-! ### Two coverages -/

variable {c' : α} [IsTrans α (· ≤ ·)]

/-- For a greater coverage the same bucket is chosen, or one that the lesser does not meet. -/
theorem bucket?_of_le (hle : c ≤ c') (buckets : List (Bucket α)) :
    bucket? buckets c' = bucket? buckets c ∨
      ∃ b, bucket? buckets c' = some b ∧ ¬b.least ≤ c := by
  have hmeets (a : Bucket α) (h : a.least ≤ c) : a.least ≤ c' := IsTrans.trans _ _ _ h hle
  cases hb : bucket? buckets c' with
  | none =>
    have hnone := bucket?_eq_none_iff.1 hb
    exact .inl (bucket?_eq_none_iff.2 fun a ha => mt (hmeets a) (hnone a ha)).symm
  | some b =>
    by_cases hbc : b.least ≤ c
    · -- among fewer buckets that are met it is the highest one all the more
      obtain ⟨before, after, heq, hof⟩ := bucket?_eq_some_iff.1 hb
      refine .inl (bucket?_eq_some_iff.2 ⟨before, after, heq, hbc, ?_, ?_⟩).symm
      · exact fun a ha hac => hof.before a ha (hmeets a hac)
      · exact fun a ha hac => hof.after a ha (hmeets a hac)
    · exact .inr ⟨b, rfl, hbc⟩

end

/-! ### The score of a coverage -/

section

variable [Zero α] [LT α] [DecidableLT α] [LE α] [DecidableLE α] [Ord α] {settings : Settings α}
  {b : Bucket α} {c c' : α}

theorem bucketScore_of_not_pos (h : ¬0 < c) : bucketScore settings c = 0 := if_neg h

theorem bucketScore_of_none (h : bucket? settings.buckets c = none) :
    bucketScore settings c = 0 := by
  rw [bucketScore, h]
  exact ite_self 0

theorem bucketScore_of_some (hc : 0 < c) (h : bucket? settings.buckets c = some b) :
    bucketScore settings c = b.score := by
  rw [bucketScore, if_pos hc, h]

variable [Std.TransOrd α]

/-- Without a score of its own a coverage has the score of a bucket that it meets. -/
theorem bucketScore_cases (settings : Settings α) (c : α) :
    bucketScore settings c = 0 ∨
      ∃ b ∈ settings.buckets, b.least ≤ c ∧ bucketScore settings c = b.score := by
  by_cases hc : 0 < c
  · cases hb : bucket? settings.buckets c with
    | none => exact .inl (bucketScore_of_none hb)
    | some b =>
      obtain ⟨hmem, hle⟩ := bucket?_eq_some hb
      exact .inr ⟨b, hmem, hle, bucketScore_of_some hc hb⟩
  · exact .inl (bucketScore_of_not_pos hc)

/-- A greater coverage has the same score or that of a bucket which the lesser does not meet. -/
theorem bucketScore_of_le [IsTrans α (· ≤ ·)] (settings : Settings α) (hc : 0 < c) (hc' : 0 < c')
    (hle : c ≤ c') :
    bucketScore settings c' = bucketScore settings c ∨
      ∃ b ∈ settings.buckets, b.least ≤ c' ∧ ¬b.least ≤ c ∧
        bucketScore settings c' = b.score := by
  rcases bucket?_of_le hle settings.buckets with heq | ⟨b, hb, hbc⟩
  · refine .inl ?_
    rw [bucketScore, bucketScore, if_pos hc, if_pos hc', heq]
  · obtain ⟨hmem, hbc'⟩ := bucket?_eq_some hb
    exact .inr ⟨b, hmem, hbc', hbc, bucketScore_of_some hc' hb⟩

end

variable {settings : Settings ℚ} {c c' : ℚ}

/-- Where greater minima have scores that are not lesser, greater coverages have too. -/
theorem bucketScore_mono (hscore : ∀ b ∈ settings.buckets, 0 ≤ b.score)
    (hmono : ∀ a ∈ settings.buckets, ∀ b ∈ settings.buckets,
      a.least < b.least → a.score ≤ b.score) (hle : c ≤ c') :
    bucketScore settings c ≤ bucketScore settings c' := by
  -- the greater score is not negative, and it is that of the same bucket or of a higher one
  have hnonneg : 0 ≤ bucketScore settings c' := by
    rcases bucketScore_cases settings c' with h | ⟨b, hb, -, h⟩
    · exact h.ge
    · exact h ▸ hscore b hb
  by_cases hc : 0 < c
  · rcases bucketScore_of_le settings hc (hc.trans_le hle) hle with
      heq | ⟨b, hb, -, hbc, hb'⟩
    · exact heq.ge
    · rcases bucketScore_cases settings c with h | ⟨a, ha, hac, h⟩
      · exact h ▸ hnonneg
      · rw [h, hb']
        exact hmono a ha b hb (hac.trans_lt (not_le.1 hbc))
  · exact (bucketScore_of_not_pos hc).le.trans hnonneg

end CancellationPolicy.Confidence
