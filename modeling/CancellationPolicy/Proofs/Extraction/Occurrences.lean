import CancellationPolicy.Proofs.Pattern.Boundary

/-!
# The occurrences of a pattern

`Pattern.occurrences` lists the occurrences of a pattern in a text: the search for each goes on
where `Span.resume` says behind the one before.  Their spans lie apart and in order, and every place
at which the pattern matches is the start of one of them or lies strictly inside one
(`spans_occurrencesFrom`).

One occurrence is described by `Found`: the pattern matches nowhere between the offset from which
on it is looked for and its start, and the offset at which the search goes on lies behind it, with
no place that is passed over in between.
-/

namespace CancellationPolicy

/-- Whether a pattern matches where a character of a text starts, or the text ends. -/
def Pattern.MatchesAt (p : Pattern) (text : String) (i : Nat) : Prop :=
  ∃ q, (Place.ofText text.toList).Reaches q ∧ q.offset = i ∧ (p.matchAt? q).isSome

namespace Pattern

/-! ### One occurrence -/

/-- What is known of the span of the occurrence that is found from an offset on. -/
structure Found (p : Pattern) (text : String) (i : Nat) (s : Span) : Prop where
  /-- The span starts at a boundary. -/
  start_boundary : IsBoundary text s.start
  /-- The span stops at a boundary. -/
  stop_boundary : IsBoundary text s.stop
  /-- The span does not start in front of the offset. -/
  le_start : i ≤ s.start
  /-- The search does not go back into the span. -/
  stop_le_resume : s.stop ≤ s.resume text
  /-- The search goes on behind the start of the span. -/
  start_lt_resume : s.start < s.resume text
  /-- The search goes on at a boundary or right behind the text. -/
  isCursor_resume : IsCursor text (s.resume text)
  /-- Of the places passed over only the start of the span and those inside it may match. -/
  covers : ∀ j, p.MatchesAt text j → i ≤ j → j < s.resume text →
    j = s.start ∨ s.start < j ∧ j < s.stop

/-- A search finds the first match from an offset on, and goes on without passing over another. -/
theorem found_of_next? {p : Pattern} {text : String} {i : Nat} {x : Occurrence}
    (h : p.next? text i = some x) : Found p text i x.span := by
  obtain ⟨start, stop, hstart, hi, hmatch, rfl, hfirst⟩ := Pattern.next?_eq_some h
  have hreach := Pattern.reaches_of_matchAt? hmatch
  have hstop := hstart.trans hreach
  have hs := Pattern.occurrence_start hreach
  have ht := Pattern.occurrence_stop hreach
  have hstart_boundary := isBoundary_iff.2 ⟨start, hstart, hs.symm⟩
  have hstop_boundary := isBoundary_iff.2 ⟨stop.place, hstop, ht.symm⟩
  refine ⟨hstart_boundary, hstop_boundary, hs ▸ hi, stop_le_resume hstop_boundary.le,
    Span.lt_resume hstart_boundary.le (Nat.le_refl _), isCursor_resume hstop ht, ?_⟩
  rintro j ⟨q, hq, rfl, hsome⟩ hij hlt
  rw [hs]
  rcases Nat.lt_trichotomy q.offset start.offset with hlt_start | heq | hgt
  · -- in front of the start nothing matches, since the search takes the first match
    rw [hfirst q hq hij hlt_start] at hsome
    cases hsome
  · exact .inl heq
  · refine .inr ⟨hgt, Nat.lt_of_not_le fun hle => ?_⟩
    exact absurd (resume_le hstop ht hq (by omega) hle) (Nat.not_le.2 hlt)

/-- A search that finds nothing passes over no match. -/
theorem not_matchesAt_of_next? {p : Pattern} {text : String} {i j : Nat}
    (h : p.next? text i = none) (hij : i ≤ j) : ¬p.MatchesAt text j := by
  rintro ⟨q, hq, rfl, hsome⟩
  have hle := (isBoundary_iff.2 ⟨q, hq, rfl⟩).le
  rw [Pattern.next?_eq_none h (Nat.le_trans hij hle) hq hij] at hsome
  cases hsome

/-! ### All occurrences -/

/-- The occurrences that are found one after another from an offset on. -/
def occurrencesFrom (p : Pattern) (text : String) (i : Nat) : List Occurrence :=
  match _h : p.next? text i with
  | none => []
  | some x => x :: occurrencesFrom p text (x.span.resume text)
termination_by text.utf8ByteSize + 1 - i
decreasing_by
  have hle := le_of_next? ‹_›
  have hlt := Span.lt_resume hle (le_start_of_next? ‹_›)
  omega

/-- The occurrences of a pattern in a text. -/
def occurrences (p : Pattern) (text : String) : List Occurrence := p.occurrencesFrom text 0

theorem occurrencesFrom_of_none {p : Pattern} {text : String} {i : Nat}
    (h : p.next? text i = none) : p.occurrencesFrom text i = [] := by
  rw [occurrencesFrom]
  split
  · rfl
  · rename_i hx
    rw [h] at hx
    cases hx

theorem occurrencesFrom_of_some {p : Pattern} {text : String} {i : Nat} {x : Occurrence}
    (h : p.next? text i = some x) :
    p.occurrencesFrom text i = x :: p.occurrencesFrom text (x.span.resume text) := by
  rw [occurrencesFrom]
  split
  · rename_i hx
    rw [h] at hx
    cases hx
  · rename_i hx
    rw [h] at hx
    rw [Option.some.inj hx]

/-- What is known of the spans that are found one after another from an offset on. -/
structure Spans (p : Pattern) (text : String) (i : Nat) (found : List Span) : Prop where
  /-- The spans start and stop at boundaries of the text, and not in front of the offset. -/
  within : ∀ s ∈ found, IsBoundary text s.start ∧ IsBoundary text s.stop ∧ i ≤ s.start
  /-- A span starts behind the start of every earlier one, and not in front of its end. -/
  ordered : found.Pairwise fun s t => s.start < t.start ∧ s.stop ≤ t.start
  /-- Every place at which the pattern matches starts a span or lies strictly inside one. -/
  covers : ∀ j, i ≤ j → p.MatchesAt text j → ∃ s ∈ found, j = s.start ∨ s.start < j ∧ j < s.stop

theorem Spans.cons {p : Pattern} {text : String} {i : Nat} {x : Span} {found : List Span}
    (hx : Found p text i x) (hfound : Spans p text (x.resume text) found) :
    Spans p text i (x :: found) := by
  have hstart := hx.start_lt_resume
  have hstop := hx.stop_le_resume
  have hi := hx.le_start
  refine ⟨fun s hs => ?_, List.pairwise_cons.2 ⟨fun s hs => ?_, hfound.ordered⟩, fun j hij hj => ?_⟩
  · rcases List.mem_cons.1 hs with rfl | hs
    · exact ⟨hx.start_boundary, hx.stop_boundary, hi⟩
    · obtain ⟨hb, hb', hle⟩ := hfound.within s hs
      exact ⟨hb, hb', by omega⟩
  · obtain ⟨-, -, hle⟩ := hfound.within s hs
    exact ⟨by omega, by omega⟩
  -- a match in front of the next search is accounted for by the first span, and any other by the
  -- rest
  · by_cases hlt : j < x.resume text
    · exact ⟨x, List.mem_cons_self, hx.covers j hj hij hlt⟩
    · obtain ⟨s, hs, hjs⟩ := hfound.covers j (Nat.le_of_not_lt hlt) hj
      exact ⟨s, List.mem_cons_of_mem _ hs, hjs⟩

/-- The spans of the occurrences from an offset on. -/
theorem spans_occurrencesFrom (p : Pattern) (text : String) (i : Nat) :
    Spans p text i ((p.occurrencesFrom text i).map Occurrence.span) := by
  induction i using occurrencesFrom.induct p text with
  | case1 i hnone =>
    rw [occurrencesFrom_of_none hnone]
    exact ⟨by simp, .nil, fun j hij hj => absurd hj (not_matchesAt_of_next? hnone hij)⟩
  | case2 i x hx ih =>
    rw [occurrencesFrom_of_some hx]
    exact ih.cons (found_of_next? hx)

end Pattern

end CancellationPolicy
