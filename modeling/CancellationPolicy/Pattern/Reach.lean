import CancellationPolicy.Pattern.Match

/-! # Places that a match can come to

One place of a text reaches another if it comes to it by stepping over
characters. Of the places that are reached from one place, those with smaller
offsets reach those with greater ones (`Place.Reaches.of_offset_le`).

Main statements: `Pattern.reaches_of_mem_ends`, by which a match ends at a place
that its start reaches, and `Pattern.next?_eq_some` and `Pattern.next?_eq_none`,
by which a search finds the first place of the text, from an offset on, at which
there is a match.
-/

namespace CancellationPolicy

/-! ### Reaching -/

/-- Whether a place comes to another by stepping over characters. -/
inductive Place.Reaches : Place → Place → Prop
  /-- No step. -/
  | refl (p : Place) : Reaches p p
  /-- A step over the next character, and further steps. -/
  | step {before : Option Char} {offset : Nat} {c : Char} {cs : List Char} {q : Place}
      (h : Reaches ⟨some c, offset + c.utf8Size, cs⟩ q) : Reaches ⟨before, offset, c :: cs⟩ q

namespace Place.Reaches

variable {p q r : Place}

theorem trans (hpq : p.Reaches q) (hqr : q.Reaches r) : p.Reaches r := by
  induction hpq with
  | refl => exact hqr
  | step _ ih => exact .step (ih hqr)

theorem offset_le (h : p.Reaches q) : p.offset ≤ q.offset := by
  induction h with
  | refl => exact Nat.le_refl _
  | step _ ih => exact Nat.le_trans (Nat.le_add_right _ _) ih

/-- Two places that one place reaches are reached one from the other. -/
theorem total (hq : p.Reaches q) (hr : p.Reaches r) : q.Reaches r ∨ r.Reaches q := by
  induction hq generalizing r with
  | refl => exact .inl hr
  | step h ih =>
    cases hr with
    | refl => exact .inr (.step h)
    | step hr => exact ih hr

/-- A step moves to a greater offset. -/
theorem eq_of_offset_le (h : p.Reaches q) (hle : q.offset ≤ p.offset) : p = q := by
  cases h with
  | refl => rfl
  | @step before offset c cs _ h =>
    have hc := c.utf8Size_pos
    have hlt : offset + c.utf8Size ≤ q.offset := h.offset_le
    have hle : q.offset ≤ offset := hle
    omega

/-- A place reaches those further on. -/
theorem of_offset_le (hq : p.Reaches q) (hr : p.Reaches r) (h : q.offset ≤ r.offset) :
    q.Reaches r := by
  rcases hq.total hr with h' | h'
  · exact h'
  · rw [h'.eq_of_offset_le h]; exact .refl q

end Place.Reaches

/-! ### Ends of matches -/

namespace Progress

theorem mem_of_mem_distinctFrom {s : Progress} {seen : Nat} {ss : List Progress}
    (h : s ∈ distinctFrom seen ss) : s ∈ ss := by
  induction ss generalizing seen with
  | nil => simp [distinctFrom] at h
  | cons t ts ih =>
    unfold distinctFrom at h
    split at h
    · exact List.mem_cons_of_mem _ (ih h)
    · rcases List.mem_cons.1 h with rfl | h
      · exact List.mem_cons_self
      · exact List.mem_cons_of_mem _ (ih h)

theorem mem_of_mem_distinct {s : Progress} {ss : List Progress} (h : s ∈ distinct ss) :
    s ∈ ss := by
  unfold distinct at h
  split at h
  · exact h
  · exact h
  · exact mem_of_mem_distinctFrom h

@[simp] theorem place_keep (s : Progress) (name : Option String) (start : Place) :
    (s.keep name start).place = s.place := by
  cases name <;> rfl

end Progress

namespace Pattern

variable {step : Progress → List Progress} {s t : Progress}

/-- Whether a number of steps leads from one progress to another. -/
inductive Steps (step : Progress → List Progress) : Nat → Progress → Progress → Prop where
  | refl (s : Progress) : Steps step 0 s s
  | tail {n : Nat} {s t u : Progress} (h : Steps step n s t) (hu : u ∈ step t) :
    Steps step (n + 1) s u

theorem steps_of_mem_rounds {k n : Nat} {ss : List Progress} (hss : ∀ u ∈ ss, Steps step k s u)
    (ht : t ∈ rounds step n ss) : Steps step (k + n) s t := by
  induction n generalizing k ss with
  | zero => exact hss t ht
  | succ n ih =>
    rw [← Nat.succ_add_eq_add_succ]
    refine ih (fun v hv => ?_) ht
    obtain ⟨u, hu, hv⟩ := List.mem_flatMap.1 (Progress.mem_of_mem_distinct hv)
    exact .tail (hss u hu) hv

namespace Loop

/-- Whether all ends that a repetition has found have a property. -/
def All (P : Progress → Prop) (l : Loop) : Prop := ∀ s ∈ l.found, P s

variable {P Q : Progress → Prop} {l : Loop}

theorem all_new : All P new := by
  intro s hs
  cases hs

/-- Only the ends count. -/
theorem All.congr {m : Loop} (hl : All P l) (h : m.found = l.found) : All P m := by
  unfold All
  rw [h]
  exact hl

theorem All.add (hl : All P l) (hs : P s) : All P (l.add s) := by
  intro t ht
  rcases List.mem_cons.1 ht with rfl | ht
  · exact hs
  · exact hl t ht

/-- What every step of a fold keeps, the fold keeps. -/
theorem All.foldl {f : Loop → Progress → Loop} {ss : List Progress} (hl : All P l)
    (hf : ∀ l, All P l → ∀ s ∈ ss, All P (f l s)) : All P (ss.foldl f l) := by
  induction ss generalizing l with
  | nil => exact hl
  | cons s ss ih =>
    apply ih (hf l hl s List.mem_cons_self)
    exact fun l hl t ht => hf l hl t (List.mem_cons_of_mem _ ht)

/-- The ends found lie behind a step from a place that rounds can start at. -/
theorem All.run (hstep : ∀ s, Q s → ∀ t ∈ step s, Q t ∧ P t) {greedy : Bool} {base fuel : Nat}
    (hl : All P l) (hs : Q s) : All P (run step greedy base fuel s l) := by
  induction fuel generalizing s l with
  | zero => exact hl
  | succ fuel ih =>
    rw [Loop.run]
    dsimp only
    split
    · exact hl
    · refine All.foldl (hl.congr rfl) fun l hl t ht => ?_
      obtain ⟨hQ, hP⟩ := hstep s hs t ht
      split
      · exact hl
      · split
        · refine All.add (ih ?_ hQ) hP
          exact hl.congr rfl
        · refine ih (All.add ?_ hP) hQ
          exact hl.congr rfl

theorem All.exit {base width : Nat} (hl : All P l) (hs : P s) : All P (exit base width s l) := by
  unfold Loop.exit
  dsimp only
  split
  · exact hl
  · exact All.add (hl.congr rfl) hs

/-- The ends found are places that rounds can start at, with any number of rounds left. -/
theorem All.upTo {Q : Nat → Progress → Prop} (hexit : ∀ n s, Q n s → P s)
    (hstep : ∀ n s, Q (n + 1) s → ∀ t ∈ step s, Q n t) {greedy : Bool} {base width level : Nat}
    (hl : All P l) (hs : Q level s) : All P (upTo step greedy base width level s l) := by
  induction level generalizing s l with
  | zero => exact hl.exit (hexit 0 s hs)
  | succ level ih =>
    have hP := hexit _ s hs
    rw [Loop.upTo]
    dsimp only
    split
    · exact hl
    · split
      · refine All.exit (All.foldl (hl.congr rfl) fun l hl t ht => ?_) hP
        exact ih hl (hstep level s hs t ht)
      · refine All.foldl (All.exit (hl.congr rfl) hP) fun l hl t ht => ?_
        exact ih hl (hstep level s hs t ht)

end Loop

theorem exists_steps_of_mem_plusEnds {k : Nat} {greedy : Bool} {base fuel : Nat}
    {ss : List Progress} (hss : ∀ u ∈ ss, Steps step k s u)
    (ht : t ∈ plusEnds step greedy base fuel ss) : ∃ n, k + 1 ≤ n ∧ Steps step n s t := by
  have hstep : ∀ u, (∃ n, k ≤ n ∧ Steps step n s u) → ∀ v ∈ step u,
      (∃ n, k ≤ n ∧ Steps step n s v) ∧ ∃ n, k + 1 ≤ n ∧ Steps step n s v := by
    rintro u ⟨n, hn, hu⟩ v hv
    exact ⟨⟨n + 1, by omega, .tail hu hv⟩, n + 1, by omega, .tail hu hv⟩
  have hall : Loop.All (fun t => ∃ n, k + 1 ≤ n ∧ Steps step n s t)
      (ss.foldl (fun l u => Loop.run step greedy base fuel u l) .new) :=
    Loop.all_new.foldl fun l hl u hu => hl.run hstep ⟨k, Nat.le_refl k, hss u hu⟩
  exact hall t (List.mem_reverse.1 ht)

/-- The ends of a repetition lie behind a number of rounds that is in its bounds. -/
theorem exists_steps_of_mem_repeatEnds {least : Nat} {most : Option Nat} {greedy : Bool}
    (ht : t ∈ repeatEnds step least most greedy s) :
    ∃ n, least ≤ n ∧ (∀ m ∈ most, n ≤ max least m) ∧ Steps step n s t := by
  have hs : ∀ u ∈ [s], Steps step 0 s u := by
    intro u hu
    rw [List.mem_singleton.1 hu]
    exact .refl s
  have hunbounded : ∀ n, ∀ m ∈ (none : Option Nat), n ≤ max least m := by
    intro n m hm
    cases hm
  unfold repeatEnds at ht
  split at ht
  · have h := Progress.mem_of_mem_distinct ht
    have hends : t = s ∨ t ∈ plusEnds step greedy s.offset (s.place.rest.length + 1) [s] := by
      split at h
      · simpa [or_comm] using h
      · simpa using h
    rcases hends with rfl | h
    · exact ⟨0, Nat.le_refl 0, hunbounded 0, .refl _⟩
    · obtain ⟨n, hn, hsteps⟩ := exists_steps_of_mem_plusEnds hs h
      exact ⟨n, by omega, hunbounded n, hsteps⟩
  · obtain ⟨n, hn, hsteps⟩ := exists_steps_of_mem_plusEnds
      (fun u hu => steps_of_mem_rounds hs hu) ht
    exact ⟨n, by omega, hunbounded n, hsteps⟩
  · rename_i most
    -- with `level` rounds left, those before and those left make no more than all
    let Q (level : Nat) (u : Progress) : Prop :=
      ∃ n, least ≤ n ∧ n + level ≤ max least most ∧ Steps step n s u
    have hexit : ∀ level u, Q level u →
        ∃ n, least ≤ n ∧ (∀ m ∈ some most, n ≤ max least m) ∧ Steps step n s u := by
      rintro level u ⟨n, hn, hmost, hu⟩
      refine ⟨n, hn, fun m hm => ?_, hu⟩
      rw [← Option.some.inj hm]
      omega
    have hstep : ∀ level u, Q (level + 1) u → ∀ v ∈ step u, Q level v := by
      rintro level u ⟨n, hn, hmost, hu⟩ v hv
      exact ⟨n + 1, by omega, by omega, .tail hu hv⟩
    have hall : Loop.All _ ((rounds step least [s]).foldl
        (fun l u => Loop.upTo step greedy s.offset (most - least + 1) (most - least) u l) .new) :=
      Loop.all_new.foldl fun l hl u hu => hl.upTo hexit hstep
        ⟨0 + least, by omega, by omega, steps_of_mem_rounds hs hu⟩
    exact hall t (List.mem_reverse.1 ht)

/-- A match ends at a place that its start reaches. -/
theorem reaches_of_mem_ends (p : Pattern) {s t : Progress} (ht : t ∈ p.ends s) :
    s.place.Reaches t.place := by
  induction p generalizing s t with
  | empty =>
    rw [List.mem_singleton.1 ht]
    exact .refl _
  | chars set =>
    obtain ⟨⟨before, offset, rest⟩, captures⟩ := s
    cases rest with
    | nil => simp [ends] at ht
    | cons c cs =>
      simp only [ends] at ht
      split at ht
      · rw [List.mem_singleton.1 ht]
        exact .step (.refl _)
      · simp at ht
  | assertion a =>
    simp only [ends] at ht
    split at ht
    · rw [List.mem_singleton.1 ht]
      exact .refl _
    · simp at ht
  | group name p ih =>
    obtain ⟨u, hu, rfl⟩ := List.mem_map.1 ht
    rw [Progress.place_keep]
    exact ih hu
  | cat p q ihp ihq =>
    obtain ⟨u, hu, ht⟩ := List.mem_flatMap.1 (Progress.mem_of_mem_distinct ht)
    exact (ihp hu).trans (ihq ht)
  | alt p q ihp ihq =>
    rcases List.mem_append.1 (Progress.mem_of_mem_distinct ht) with ht | ht
    · exact ihp ht
    · exact ihq ht
  | repeated least most greedy p ih =>
    obtain ⟨n, -, -, hsteps⟩ := exists_steps_of_mem_repeatEnds ht
    clear ht
    induction hsteps with
    | refl s => exact .refl _
    | tail _ hu hplace => exact hplace.trans (ih hu)

theorem reaches_of_matchAt? {p : Pattern} {start : Place} {stop : Progress}
    (h : p.matchAt? start = some stop) : start.Reaches stop.place :=
  reaches_of_mem_ends p (List.mem_of_head? h)

/-! ### Searches -/

theorem find?_eq_some {p : Pattern} {before : Option Char} {offset : Nat} {cs : List Char}
    {x : Occurrence} (h : p.find? before offset cs = some x) :
    ∃ start stop, Place.Reaches ⟨before, offset, cs⟩ start ∧ p.matchAt? start = some stop ∧
      x = occurrence start stop ∧
      ∀ q, Place.Reaches ⟨before, offset, cs⟩ q → q.offset < start.offset →
        p.matchAt? q = none := by
  induction cs generalizing before offset with
  | nil =>
    obtain ⟨stop, hstop, rfl⟩ := Option.map_eq_some_iff.1 h
    refine ⟨_, stop, .refl _, hstop, rfl, fun q hq hlt => ?_⟩
    exact absurd hq.offset_le (Nat.not_le.2 hlt)
  | cons c cs ih =>
    simp only [find?] at h
    split at h
    · rename_i stop hstop
      obtain rfl := Option.some.inj h
      refine ⟨_, stop, .refl _, hstop, rfl, fun q hq hlt => ?_⟩
      exact absurd hq.offset_le (Nat.not_le.2 hlt)
    · rename_i hnone
      obtain ⟨start, stop, hr, hstop, hx, hfirst⟩ := ih h
      refine ⟨start, stop, .step hr, hstop, hx, fun q hq hlt => ?_⟩
      cases hq with
      | refl => exact hnone
      | step hq => exact hfirst q hq hlt

theorem find?_eq_none {p : Pattern} {before : Option Char} {offset : Nat} {cs : List Char}
    (h : p.find? before offset cs = none) {q : Place} (hq : Place.Reaches ⟨before, offset, cs⟩ q) :
    p.matchAt? q = none := by
  induction cs generalizing before offset with
  | nil =>
    cases hq
    exact Option.map_eq_none_iff.1 h
  | cons c cs ih =>
    simp only [find?] at h
    split at h
    · cases h
    · rename_i hnone
      cases hq with
      | refl => exact hnone
      | step hq => exact ih h hq

theorem findFrom?_of_le {i offset : Nat} (h : i ≤ offset) (p : Pattern) (before : Option Char)
    (cs : List Char) : p.findFrom? i before offset cs = p.find? before offset cs := by
  cases cs <;> simp only [findFrom?, h, if_true]

theorem findFrom?_eq_some {p : Pattern} {i : Nat} {before : Option Char} {offset : Nat}
    {cs : List Char} {x : Occurrence} (h : p.findFrom? i before offset cs = some x) :
    ∃ start stop, Place.Reaches ⟨before, offset, cs⟩ start ∧ i ≤ start.offset ∧
      p.matchAt? start = some stop ∧ x = occurrence start stop ∧
      ∀ q, Place.Reaches ⟨before, offset, cs⟩ q → i ≤ q.offset → q.offset < start.offset →
        p.matchAt? q = none := by
  induction cs generalizing before offset with
  | nil =>
    by_cases hle : i ≤ offset
    · rw [findFrom?_of_le hle] at h
      obtain ⟨start, stop, hr, hstop, hx, hfirst⟩ := find?_eq_some h
      exact ⟨start, stop, hr, Nat.le_trans hle hr.offset_le, hstop, hx, fun q hq _ => hfirst q hq⟩
    · simp [findFrom?, hle] at h
  | cons c cs ih =>
    by_cases hle : i ≤ offset
    · rw [findFrom?_of_le hle] at h
      obtain ⟨start, stop, hr, hstop, hx, hfirst⟩ := find?_eq_some h
      exact ⟨start, stop, hr, Nat.le_trans hle hr.offset_le, hstop, hx, fun q hq _ => hfirst q hq⟩
    · simp only [findFrom?, hle, if_false] at h
      obtain ⟨start, stop, hr, hi, hstop, hx, hfirst⟩ := ih h
      refine ⟨start, stop, .step hr, hi, hstop, hx, fun q hq hiq hlt => ?_⟩
      cases hq with
      -- places in front of the offset are not tried
      | refl => exact absurd hiq hle
      | step hq => exact hfirst q hq hiq hlt

theorem findFrom?_eq_none {p : Pattern} {i : Nat} {before : Option Char} {offset : Nat}
    {cs : List Char} (h : p.findFrom? i before offset cs = none) {q : Place}
    (hq : Place.Reaches ⟨before, offset, cs⟩ q) (hi : i ≤ q.offset) : p.matchAt? q = none := by
  induction cs generalizing before offset with
  | nil =>
    obtain rfl : q = _ := by cases hq; rfl
    rw [findFrom?_of_le hi] at h
    exact find?_eq_none h hq
  | cons c cs ih =>
    by_cases hle : i ≤ offset
    · rw [findFrom?_of_le hle] at h
      exact find?_eq_none h hq
    · simp only [findFrom?, hle, if_false] at h
      cases hq with
      | refl => exact absurd hi hle
      | step hq => exact ih h hq

/-- A search finds a match at the first place, from the offset on, that has one. -/
theorem next?_eq_some {p : Pattern} {text : String} {i : Nat} {x : Occurrence}
    (h : p.next? text i = some x) :
    ∃ start stop, (Place.ofText text.toList).Reaches start ∧ i ≤ start.offset ∧
      p.matchAt? start = some stop ∧ x = occurrence start stop ∧
      ∀ q, (Place.ofText text.toList).Reaches q → i ≤ q.offset → q.offset < start.offset →
        p.matchAt? q = none := by
  unfold next? at h
  split at h
  · cases h
  · exact findFrom?_eq_some h

/-- A search that finds nothing passes over no match. -/
theorem next?_eq_none {p : Pattern} {text : String} {i : Nat} (h : p.next? text i = none)
    (hi : i ≤ text.utf8ByteSize) {q : Place} (hq : (Place.ofText text.toList).Reaches q)
    (hiq : i ≤ q.offset) : p.matchAt? q = none := by
  unfold next? at h
  rw [if_neg (Nat.not_lt.2 hi)] at h
  exact findFrom?_eq_none h hq hiq

/-! ### Going on -/

theorem le_of_next? {p : Pattern} {text : String} {i : Nat} {x : Occurrence}
    (h : p.next? text i = some x) : i ≤ text.utf8ByteSize := by
  unfold next? at h
  split at h
  · cases h
  · rename_i hle
    exact Nat.le_of_not_lt hle

theorem occurrence_start {start : Place} {stop : Progress} (h : start.Reaches stop.place) :
    (occurrence start stop).span.start = start.offset :=
  Nat.min_eq_left h.offset_le

theorem occurrence_stop {start : Place} {stop : Progress} (h : start.Reaches stop.place) :
    (occurrence start stop).span.stop = stop.offset :=
  Nat.max_eq_right h.offset_le

theorem le_start_of_next? {p : Pattern} {text : String} {i : Nat} {x : Occurrence}
    (h : p.next? text i = some x) : i ≤ x.span.start := by
  obtain ⟨start, stop, -, hi, hstop, rfl, -⟩ := next?_eq_some h
  rwa [occurrence_start (reaches_of_matchAt? hstop)]

end Pattern

/-- The search goes on behind every offset of the text from which on the span starts. -/
theorem Span.lt_resume {text : String} {s : Span} {i : Nat} (hi : i ≤ text.utf8ByteSize)
    (hs : i ≤ s.start) : i < s.resume text := by
  have hle := s.start_le_stop
  unfold Span.resume
  split
  · rename_i hne
    have hne : s.start ≠ s.stop := by simpa [Span.isEmpty] using hne
    omega
  · split
    · rename_i c _
      have hc := c.utf8Size_pos
      omega
    · omega

end CancellationPolicy
