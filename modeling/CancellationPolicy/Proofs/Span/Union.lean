import CancellationPolicy.Proofs.Sorting
import CancellationPolicy.Span
import Mathlib.Data.Finset.Card
import Mathlib.Order.Interval.Finset.Nat

/-!
# What spans cover

`Span.covered` counts the positions that lie in at least one span (`covered_eq_card`).  It therefore
grows with the spans (`covered_le_covered_append`) and does not exceed an offset behind which no
span goes (`covered_le`).

Merging keeps the set of positions (`union_merge`) and leaves spans that lie apart, so their lengths
add up to its size.  Both are shown of `absorb` by induction on the spans that follow in order.
-/

namespace CancellationPolicy.Span

variable {s t : Span} {ss ts : List Span} {i : Nat}

/-! ### Positions -/

/-- The offsets of the bytes of a span. -/
def positions (s : Span) : Finset Nat := Finset.Ico s.start s.stop

/-- The offsets of the bytes that lie in some span. -/
def union : List Span → Finset Nat
  | [] => ∅
  | s :: ss => s.positions ∪ union ss

theorem card_positions (s : Span) : s.positions.card = s.length := Nat.card_Ico _ _

theorem mem_positions : i ∈ s.positions ↔ s.start ≤ i ∧ i < s.stop := Finset.mem_Ico

theorem mem_union : i ∈ union ss ↔ ∃ s ∈ ss, s.start ≤ i ∧ i < s.stop := by
  induction ss with
  | nil => simp [union]
  | cons s ss ih =>
    rw [union, Finset.mem_union, ih, mem_positions, List.exists_mem_cons_iff]

theorem union_congr (h : ∀ s, s ∈ ss ↔ s ∈ ts) : union ss = union ts := by
  ext i
  simp only [mem_union, h]

/-- A span and one that starts inside it or right behind it cover what their hull covers. -/
theorem positions_hull (hst : s.start ≤ t.start) (hts : t.start ≤ s.stop) :
    (hull s t).positions = s.positions ∪ t.positions := by
  have hs := s.start_le_stop
  have ht := t.start_le_stop
  ext i
  rw [Finset.mem_union, mem_positions, mem_positions, mem_positions]
  show min s.start t.start ≤ i ∧ i < max s.stop t.stop ↔ _
  omega

/-! ### Merging -/

theorem union_absorb (hs : ∀ t ∈ ts, s.start ≤ t.start)
    (hts : ts.Pairwise fun t u => t.start ≤ u.start) : union (absorb s ts) = union (s :: ts) := by
  induction ts generalizing s with
  | nil => rfl
  | cons t ts ih =>
    obtain ⟨ht, hts⟩ := List.pairwise_cons.1 hts
    have hst := hs t List.mem_cons_self
    rw [absorb]
    split
    · rename_i hle
      -- the hull starts where the first span does, so the rest still follows it in order
      have hstart : (hull s t).start = s.start := Nat.min_eq_left hst
      rw [ih (fun u hu => hstart ▸ hs u (List.mem_cons_of_mem _ hu)) hts, union, union, union,
        positions_hull hst hle, Finset.union_assoc]
    · rw [union, ih ht hts]
      rfl

/-- Absorbing leaves spans none of which starts in front of the first one or touches the one before
it. -/
theorem apart_absorb (hs : ∀ t ∈ ts, s.start ≤ t.start)
    (hts : ts.Pairwise fun t u => t.start ≤ u.start) :
    (∀ u ∈ absorb s ts, s.start ≤ u.start) ∧
      (absorb s ts).Pairwise fun t u => t.stop < u.start := by
  induction ts generalizing s with
  | nil => simp [absorb]
  | cons t ts ih =>
    obtain ⟨ht, hts⟩ := List.pairwise_cons.1 hts
    have hst := hs t List.mem_cons_self
    rw [absorb]
    split
    · have hstart : (hull s t).start = s.start := Nat.min_eq_left hst
      rw [← hstart]
      exact ih (fun u hu => hstart ▸ hs u (List.mem_cons_of_mem _ hu)) hts
    · rename_i hgt
      -- what comes later starts no earlier than the second span, which lies apart from the first
      obtain ⟨hle, hapart⟩ := ih ht hts
      refine ⟨fun u hu => ?_, List.pairwise_cons.2 ⟨fun u hu => ?_, hapart⟩⟩
      · rcases List.mem_cons.1 hu with rfl | hu
        · exact Nat.le_refl _
        · exact Nat.le_trans hst (hle u hu)
      · exact Nat.lt_of_lt_of_le (Nat.lt_of_not_le hgt) (hle u hu)

theorem pairwise_sortByStart (ss : List Span) :
    (sortByStart ss).Pairwise fun s t => s.start ≤ t.start :=
  pairwise_stableSort_decide (r := fun s t : Span => s.start ≤ t.start)
    (fun s t => Nat.le_total s.start t.start) (fun _ _ _ => Nat.le_trans) ss

theorem union_sortByStart (ss : List Span) : union (sortByStart ss) = union ss :=
  union_congr fun _ => mem_stableSort _

/-- Merging keeps the positions. -/
theorem union_merge (ss : List Span) : union (merge ss) = union ss := by
  rw [← union_sortByStart ss, merge]
  have hsorted := pairwise_sortByStart ss
  generalize sortByStart ss = sorted at hsorted ⊢
  cases sorted with
  | nil => rfl
  | cons s ts =>
    obtain ⟨hs, hts⟩ := List.pairwise_cons.1 hsorted
    exact union_absorb hs hts

/-- Merged spans are apart. -/
theorem apart_merge (ss : List Span) : (merge ss).Pairwise fun s t => s.stop < t.start := by
  rw [merge]
  have hsorted := pairwise_sortByStart ss
  generalize sortByStart ss = sorted at hsorted ⊢
  cases sorted with
  | nil => exact .nil
  | cons s ts =>
    obtain ⟨hs, hts⟩ := List.pairwise_cons.1 hsorted
    exact (apart_absorb hs hts).2

/-! ### Counting -/

/-- The lengths of spans that lie apart add up to the number of their positions. -/
theorem total_eq_card (h : ss.Pairwise fun s t => s.stop < t.start) :
    total ss = (union ss).card := by
  induction ss with
  | nil => rfl
  | cons s ss ih =>
    obtain ⟨hs, hss⟩ := List.pairwise_cons.1 h
    -- the spans behind the first one start behind its end
    have hdisjoint : Disjoint s.positions (union ss) := by
      rw [Finset.disjoint_left]
      intro i hi hmem
      obtain ⟨t, ht, hle, -⟩ := mem_union.1 hmem
      have hlt := (mem_positions.1 hi).2
      have := hs t ht
      omega
    rw [total, union, Finset.card_union_of_disjoint hdisjoint, card_positions, ih hss]

/-- What is covered is the number of positions. -/
theorem covered_eq_card (ss : List Span) : covered ss = (union ss).card := by
  rw [covered, total_eq_card (apart_merge ss), union_merge]

example :
    covered [.between 3 8, .between 0 5, .between 8 9, .between 20 22, .between 1 2] = 11 := by
  decide

/-- Further spans cover no less. -/
theorem covered_le_covered_append (ss ts : List Span) : covered ss ≤ covered (ss ++ ts) := by
  rw [covered_eq_card, covered_eq_card]
  refine Finset.card_le_card fun i hi => ?_
  obtain ⟨s, hs, h⟩ := mem_union.1 hi
  exact mem_union.2 ⟨s, List.mem_append_left _ hs, h⟩

/-- Spans that do not go behind an offset do not cover more than lies in front of it. -/
theorem covered_le {n : Nat} (h : ∀ s ∈ ss, s.stop ≤ n) : covered ss ≤ n := by
  have hsub : union ss ⊆ Finset.range n := by
    intro i hi
    obtain ⟨s, hs, -, hlt⟩ := mem_union.1 hi
    exact Finset.mem_range.2 (Nat.lt_of_lt_of_le hlt (h s hs))
  rw [covered_eq_card, ← Finset.card_range n]
  exact Finset.card_le_card hsub

end CancellationPolicy.Span
