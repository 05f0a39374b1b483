import CancellationPolicy.Proofs.Extraction.Replay

/-!
# Searches end and miss nothing

A search for the occurrences of a rule passes through finitely many states, in which the cursor
strictly increases and never stands inside a character.  The spans that it adds are those of the
occurrences of the pattern: they lie apart and in order, and leave out no place at which the pattern
matches (`search_complete`).
-/

namespace CancellationPolicy.Search

variable {r : Rule} {fields : List Rule.Field} {text : String} {s t : Search}

/-! ### The states -/

/-- The states through which a search passes, up to the one in which nothing more is found. -/
inductive Runs (r : Rule) (fields : List Rule.Field) (text : String) : Search → List Search → Prop
  /-- Nothing more is found. -/
  | stop {s : Search} (h : s.step? r fields text = none) : Runs r fields text s [s]
  /-- An occurrence is found, and the search goes on. -/
  | step {s t : Search} {states : List Search} (h : s.step? r fields text = some t)
    (rest : Runs r fields text t states) : Runs r fields text s (s :: states)

/-- Every search comes to an end. -/
theorem exists_runs (r : Rule) (fields : List Rule.Field) (text : String) (s : Search) :
    ∃ states, Runs r fields text s states := by
  induction s using run.induct r fields text with
  | case1 s hnone => exact ⟨[s], .stop hnone⟩
  | case2 s t hstep ih =>
    obtain ⟨states, hstates⟩ := ih
    exact ⟨s :: states, .step hstep hstates⟩

theorem cursor_lt_of_step? (h : s.step? r fields text = some t) : s.cursor < t.cursor := by
  obtain ⟨x, hx, rfl⟩ := exists_of_step? h
  have hfound := Pattern.found_of_next? hx
  exact Nat.lt_of_le_of_lt hfound.le_start hfound.start_lt_resume

variable {states : List Search}

theorem Runs.cursor_le (h : Runs r fields text s states) : ∀ u ∈ states, s.cursor ≤ u.cursor := by
  induction h with
  | stop _ => simp
  | step hstep _ ih =>
    intro u hu
    rcases List.mem_cons.1 hu with rfl | hu
    · exact Nat.le_refl _
    · exact Nat.le_trans (Nat.le_of_lt (cursor_lt_of_step? hstep)) (ih u hu)

/-- The cursor strictly increases. -/
theorem Runs.pairwise_cursor (h : Runs r fields text s states) :
    states.Pairwise fun u v => u.cursor < v.cursor := by
  induction h with
  | stop _ => exact List.pairwise_singleton _ _
  | step hstep rest ih =>
    refine List.pairwise_cons.2 ⟨fun u hu => ?_, ih⟩
    exact Nat.lt_of_lt_of_le (cursor_lt_of_step? hstep) (rest.cursor_le u hu)

/-- The cursor never stands inside a character. -/
theorem Runs.isCursor (h : Runs r fields text s states) (hs : IsCursor text s.cursor) :
    ∀ u ∈ states, IsCursor text u.cursor := by
  induction h with
  | stop _ => simpa using hs
  | step hstep _ ih =>
    obtain ⟨x, hx, rfl⟩ := exists_of_step? hstep
    intro u hu
    rcases List.mem_cons.1 hu with rfl | hu
    · exact hs
    · exact ih (Pattern.found_of_next? hx).isCursor_resume u hu

/-- The outcome of the last state is that of the search. -/
theorem Runs.getLast?_eq (h : Runs r fields text s states) :
    states.getLast?.map Search.outcome = some (s.run r fields text) := by
  induction h with
  | stop hnone => rw [run_of_step?_eq_none hnone, List.getLast?_singleton, Option.map_some]
  | step hstep rest ih =>
    rw [run_of_step?_eq_some hstep, ← ih]
    cases rest with
    | stop _ => rfl
    | step _ _ => rw [List.getLast?_cons_cons]

/-- The search for the occurrences of a rule ends.  On the way its cursor strictly increases and
always stands at a boundary or right behind the text.  The spans that it adds lie in the text, start
and stop at boundaries and follow one another without overlap, and every boundary at which the
pattern matches is the start of one of them or lies strictly inside one. -/
theorem search_complete (r : Rule) (fields : List Rule.Field) (text : String) (o : Outcome) :
    ∃ states, Runs r fields text ⟨0, o⟩ states ∧
      states.getLast?.map Search.outcome = some (run r fields text ⟨0, o⟩) ∧
      states.Pairwise (fun s t => s.cursor < t.cursor) ∧
      (∀ s ∈ states, IsBoundary text s.cursor ∨ s.cursor = text.utf8ByteSize + 1) ∧
      ∃ found, (run r fields text ⟨0, o⟩).spans = o.spans ++ found ∧
        (∀ s ∈ found, IsBoundary text s.start ∧ IsBoundary text s.stop ∧
          s.stop ≤ text.utf8ByteSize) ∧
        found.Pairwise (fun s t => s.start < t.start ∧ s.stop ≤ t.start) ∧
        ∀ i, r.pattern.MatchesAt text i → ∃ s ∈ found, i = s.start ∨ s.start < i ∧ i < s.stop := by
  obtain ⟨states, hstates⟩ := exists_runs r fields text ⟨0, o⟩
  -- the spans of the run are those of the occurrences from the start of the text on
  have hfound := Pattern.spans_occurrencesFrom r.pattern text 0
  refine ⟨states, hstates, hstates.getLast?_eq, hstates.pairwise_cursor,
    hstates.isCursor (.inl (isBoundary_zero text)),
    (r.pattern.occurrences text).map Occurrence.span, ?_, fun s hs => ?_, hfound.ordered,
    fun i => hfound.covers i (Nat.zero_le i)⟩
  · rw [run_eq_add, Outcome.add, List.map_map, Pattern.occurrences]
    rfl
  · obtain ⟨hstart, hstop, -⟩ := hfound.within s hs
    exact ⟨hstart, hstop, hstop.le⟩

end CancellationPolicy.Search
