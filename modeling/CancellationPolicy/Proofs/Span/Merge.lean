import CancellationPolicy.Proofs.Span.Union
import Mathlib.Data.Set.Card

/-!
# Merging is an exact union

Spans that lie apart are determined by what they mark (`eq_of_marks_iff`): the offsets from their
first to their last, and the bytes between these.  Bytes alone would not do, since an empty span has
none, and it counts whether it stands by itself or touches another one.

Merging keeps the marks (`marks_merge`) and its result lies apart.  So the order of the spans and
repeated ones make no difference, and merging twice is merging once (`merge_exact`).
-/

namespace CancellationPolicy.Span

variable {s t : Span} {ss ts : List Span} {x : Nat}

/-! ### Marks -/

/-- Whether some span has the mark `x`.  The offset `i` is the mark `2 * i`, and the byte behind it
is the mark `2 * i + 1`. -/
def Marks (ss : List Span) (x : Nat) : Prop := ∃ s ∈ ss, 2 * s.start ≤ x ∧ x ≤ 2 * s.stop

theorem marks_cons : Marks (s :: ss) x ↔ (2 * s.start ≤ x ∧ x ≤ 2 * s.stop) ∨ Marks ss x :=
  List.exists_mem_cons_iff _ _ _

/-- Marks are a matter of the spans, whatever their order. -/
theorem marks_congr (h : ∀ s, s ∈ ss ↔ s ∈ ts) (x : Nat) : Marks ss x ↔ Marks ts x :=
  exists_congr fun s => and_congr_left' (h s)

theorem marks_absorb (hs : ∀ t ∈ ts, s.start ≤ t.start)
    (hts : ts.Pairwise fun t u => t.start ≤ u.start) :
    Marks (absorb s ts) x ↔ Marks (s :: ts) x := by
  induction ts generalizing s with
  | nil => rfl
  | cons t ts ih =>
    obtain ⟨ht, hts⟩ := List.pairwise_cons.1 hts
    have hst := hs t List.mem_cons_self
    have hs' := s.start_le_stop
    have ht' := t.start_le_stop
    rw [absorb]
    split
    · rename_i hle
      -- the hull starts where the first span does and leaves no gap, since the two touch
      have hstart : (hull s t).start = s.start := Nat.min_eq_left hst
      have hstop : (hull s t).stop = max s.stop t.stop := rfl
      rw [ih (fun u hu => hstart ▸ hs u (List.mem_cons_of_mem _ hu)) hts, marks_cons, marks_cons,
        marks_cons, hstart, hstop, ← or_assoc]
      refine or_congr_left ?_
      omega
    · rw [marks_cons, @marks_cons s (t :: ts), ih ht hts]

/-- Merging keeps the marks. -/
theorem marks_merge (ss : List Span) (x : Nat) : Marks (merge ss) x ↔ Marks ss x := by
  have hmem : ∀ s, s ∈ sortByStart ss ↔ s ∈ ss := fun _ => mem_stableSort _
  rw [merge, ← marks_congr hmem]
  have hsorted := pairwise_sortByStart ss
  generalize sortByStart ss = sorted at hsorted ⊢
  cases sorted with
  | nil => rfl
  | cons s ts =>
    obtain ⟨hs, hts⟩ := List.pairwise_cons.1 hsorted
    exact marks_absorb hs hts

/-! ### Spans that lie apart -/

theorem start_le_of_marks (h : ∀ u ∈ ts, t.stop < u.start) (hx : Marks (t :: ts) x) :
    2 * t.start ≤ x := by
  have ht := t.start_le_stop
  rcases marks_cons.1 hx with ⟨hle, -⟩ | ⟨u, hu, hle, -⟩
  · exact hle
  · have := h u hu
    omega

/-- Right behind the end of the first span there is a gap. -/
theorem not_marks_succ (h : ∀ u ∈ ts, t.stop < u.start) : ¬Marks (t :: ts) (2 * t.stop + 1) := by
  intro hx
  rcases marks_cons.1 hx with ⟨-, hle⟩ | ⟨u, hu, hle, -⟩
  · omega
  · have := h u hu
    omega

/-- The marks behind the end of the first span are those of the other ones. -/
theorem marks_tail (h : ∀ u ∈ ts, t.stop < u.start) :
    Marks ts x ↔ Marks (t :: ts) x ∧ 2 * t.stop < x := by
  rw [marks_cons]
  constructor
  · intro hx
    obtain ⟨u, hu, hle, -⟩ := id hx
    have := h u hu
    exact ⟨.inr hx, by omega⟩
  · rintro ⟨⟨-, hle⟩ | hx, hlt⟩
    · omega
    · exact hx

/-- Of two lists of spans that lie apart and have the same marks, the first spans agree. -/
theorem start_le_and_stop_le (hs : ∀ u ∈ ss, s.stop < u.start) (ht : ∀ u ∈ ts, t.stop < u.start)
    (h : ∀ x, Marks (s :: ss) x → Marks (t :: ts) x)
    (h' : ∀ x, Marks (t :: ts) x → Marks (s :: ss) x) : t.start ≤ s.start ∧ t.stop ≤ s.stop := by
  have hs' := s.start_le_stop
  have hstart : 2 * t.start ≤ 2 * s.start :=
    start_le_of_marks ht (h _ (marks_cons.2 (.inl ⟨Nat.le_refl _, by omega⟩)))
  refine ⟨by omega, Nat.le_of_not_lt fun hlt => ?_⟩
  -- otherwise the second span would fill the gap behind the first
  exact not_marks_succ hs (h' _ (marks_cons.2 (.inl ⟨by omega, by omega⟩)))

/-- Spans that lie apart are determined by their marks. -/
theorem eq_of_marks_iff (hss : ss.Pairwise fun s t => s.stop < t.start)
    (hts : ts.Pairwise fun s t => s.stop < t.start) (h : ∀ x, Marks ss x ↔ Marks ts x) :
    ss = ts := by
  induction ss generalizing ts with
  | nil =>
    cases ts with
    | nil => rfl
    | cons t ts =>
      have ht := t.start_le_stop
      obtain ⟨s, hs, -⟩ := (h (2 * t.start)).2 (marks_cons.2 (.inl ⟨Nat.le_refl _, by omega⟩))
      cases hs
  | cons s ss ih =>
    cases ts with
    | nil =>
      have hs := s.start_le_stop
      obtain ⟨t, ht, -⟩ := (h (2 * s.start)).1 (marks_cons.2 (.inl ⟨Nat.le_refl _, by omega⟩))
      cases ht
    | cons t ts =>
      obtain ⟨hs, hapart⟩ := List.pairwise_cons.1 hss
      obtain ⟨ht, hapart'⟩ := List.pairwise_cons.1 hts
      -- the marks of either list bound the first span of the other
      obtain ⟨hstart, hstop⟩ := start_le_and_stop_le hs ht (fun x => (h x).1) fun x => (h x).2
      obtain ⟨hstart', hstop'⟩ := start_le_and_stop_le ht hs (fun x => (h x).2) fun x => (h x).1
      have hst : s = t := by
        cases s
        cases t
        simp only [mk.injEq]
        exact ⟨Nat.le_antisymm hstart' hstart, Nat.le_antisymm hstop' hstop⟩
      subst hst
      -- without the first span, the marks are those behind it
      have htail : ∀ x, Marks ss x ↔ Marks ts x := fun x =>
        (marks_tail hs).trans ((and_congr_left' (h x)).trans (marks_tail ht).symm)
      rw [ih hapart hapart' htail]

/-- Merging depends only on which spans there are. -/
theorem merge_congr (h : ∀ s, s ∈ ss ↔ s ∈ ts) : merge ss = merge ts := by
  refine eq_of_marks_iff (apart_merge ss) (apart_merge ts) fun x => ?_
  rw [marks_merge, marks_merge, marks_congr h]

/-- Spans that are apart are not merged. -/
theorem merge_of_apart (h : ss.Pairwise fun s t => s.stop < t.start) : merge ss = ss :=
  eq_of_marks_iff (apart_merge ss) h (marks_merge ss)

/-! ### Sums of lengths -/

theorem total_append (ss ts : List Span) : total (ss ++ ts) = total ss + total ts := by
  induction ss with
  | nil => exact (Nat.zero_add _).symm
  | cons s ss ih => rw [List.cons_append, total, total, ih, Nat.add_assoc]

/-- No part of the sum that counts the covered bytes exceeds an offset behind which no span goes. -/
theorem total_le_of_isPrefix {n : Nat} {us : List Span} (h : ∀ s ∈ ss, s.stop ≤ n)
    (hus : us <+: merge ss) : total us ≤ n := by
  obtain ⟨vs, hvs⟩ := hus
  have hle : total us + total vs ≤ n := by
    rw [← total_append, hvs]
    exact covered_le h
  exact Nat.le_trans (Nat.le_add_right _ _) hle

/-- No span ends behind the last end. -/
theorem stop_le_foldr_max (hs : s ∈ ss) : s.stop ≤ (ss.map stop).foldr max 0 := by
  induction ss with
  | nil => cases hs
  | cons t ss ih =>
    rw [List.map_cons, List.foldr_cons]
    rcases List.mem_cons.1 hs with rfl | hs
    · exact Nat.le_max_left _ _
    · exact Nat.le_trans (ih hs) (Nat.le_max_right _ _)

/-- Merging leaves spans in order, each of which ends before the next one starts, and keeps what
they cover.  It does not depend on the order of the spans or on repeated ones, and merging twice is
merging once.  What is counted as covered is the number of positions that lie in some span.  It does
not exceed the greatest end, so that no sum on the way exceeds 64 bits if no end does, nor any
offset behind which no span goes, and further spans do not lower it. -/
theorem merge_exact (ss : List Span) :
    (merge ss).Pairwise (fun s t => s.start ≤ t.start ∧ s.stop < t.start) ∧
      (∀ i, (∃ s ∈ merge ss, s.start ≤ i ∧ i < s.stop) ↔ ∃ s ∈ ss, s.start ≤ i ∧ i < s.stop) ∧
      (∀ ts, (∀ s, s ∈ ts ↔ s ∈ ss) → merge ts = merge ss) ∧
      merge (merge ss) = merge ss ∧
      covered ss = Set.ncard {i | ∃ s ∈ ss, s.start ≤ i ∧ i < s.stop} ∧
      covered ss ≤ (ss.map stop).foldr max 0 ∧
      ((∀ s ∈ ss, s.stop < 2 ^ 64) → ∀ us, us <+: merge ss → total us < 2 ^ 64) ∧
      (∀ n, (∀ s ∈ ss, s.stop ≤ n) → covered ss ≤ n) ∧
      ∀ ts, covered ss ≤ covered (ss ++ ts) := by
  -- ∃ s ∈ ss, s.start ≤ i ∧ i < s.stop} = (union ss : Set Nat) := by | the positions as a finite
  -- set, which can be counted
  have hset : {i | ∃ s ∈ ss, s.start ≤ i ∧ i < s.stop} = (union ss : Set Nat) := by
    ext i
    exact mem_union.symm
  refine ⟨(apart_merge ss).imp fun {s t} h => ⟨by have := s.start_le_stop; omega, h⟩,
    fun i => ?_, fun ts h => merge_congr h, merge_of_apart (apart_merge ss), ?_,
    covered_le fun s => stop_le_foldr_max, fun h us hus => ?_, fun n => covered_le,
    covered_le_covered_append ss⟩
  · rw [← mem_union, ← mem_union, union_merge]
  · rw [hset, Set.ncard_coe_finset, covered_eq_card]
  · have hle : ∀ s ∈ ss, s.stop ≤ 2 ^ 64 - 1 := fun s hs => Nat.le_sub_one_of_lt (h s hs)
    have := total_le_of_isPrefix hle hus
    omega

example : merge [.between 3 8, .between 5 5, .between 8 9, .between 11 11, .between 3 8] =
    [.between 3 9, .between 11 11] := by decide

end CancellationPolicy.Span
