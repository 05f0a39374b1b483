import CancellationPolicy.Proofs.Extraction.Occurrences

/-!
# What patterns describe

`Pattern.Describes p w k` says that the pattern `p` describes the text `w`, and that `k` are the
named parts of it that are kept, in the order in which they are.  It leaves aside which way to match
is preferred, and the conditions on places.

So not every text that a pattern describes is one that it matches, but whatever it matches it
describes (`describes_of_mem_ends`).  The named parts of an occurrence are those of a part of the
text that the pattern describes (`exists_describes_of_mem_occurrences`), and what holds of all texts
and parts that a pattern describes can be proved along the pattern.
-/

namespace CancellationPolicy

/-- The named parts of a text, in the order in which they are kept. -/
abbrev Kept := List (String × String)

namespace Pattern

/-- Whether a text is a number of texts one behind another, each with its parts as `D` says. -/
def Iterated (D : List Char → Kept → Prop) : Nat → List Char → Kept → Prop
  | 0, w, k => w = [] ∧ k = []
  | n + 1, w, k => ∃ v j v' j', Iterated D n v j ∧ D v' j' ∧ w = v ++ v' ∧ k = j ++ j'

/-- Whether a pattern describes a text, and with which parts. -/
def Describes : Pattern → List Char → Kept → Prop
  | empty, w, k => w = [] ∧ k = []
  | chars set, w, k => ∃ c, set.holds c = true ∧ w = [c] ∧ k = []
  | assertion _, w, k => w = [] ∧ k = []
  | group name p, w, k =>
    ∃ j, Describes p w j ∧ k = j ++ (name.map fun n => (n, String.ofList w)).toList
  | cat p q, w, k => ∃ v j v' j', Describes p v j ∧ Describes q v' j' ∧ w = v ++ v' ∧ k = j ++ j'
  | alt p q, w, k => Describes p w k ∨ Describes q w k
  | repeated least most _ p, w, k =>
    ∃ n, least ≤ n ∧ (∀ m ∈ most, n ≤ max least m) ∧ Iterated (Describes p) n w k

end Pattern

/-! ### Taking texts -/

namespace Place

theorem textUpTo_go (w rest : List Char) (at_ : Nat) :
    textUpTo.go (at_ + (String.ofList w).utf8ByteSize) at_ (w ++ rest) = w := by
  induction w generalizing at_ with
  | nil => cases rest <;> simp [textUpTo.go]
  | cons c w ih =>
    have hc := c.utf8Size_pos
    rw [utf8ByteSize_cons, List.cons_append, textUpTo.go, if_pos (by omega), ← Nat.add_assoc, ih]

/-- The text up to the place behind a text that follows is that text. -/
theorem textUpTo_eq {p : Place} {w rest : List Char} (h : p.rest = w ++ rest) :
    p.textUpTo (p.offset + (String.ofList w).utf8ByteSize) = w := by
  rw [textUpTo, h]
  exact textUpTo_go w rest p.offset

end Place

namespace Progress

/-- Whether one comes from a progress to another by taking a text and keeping parts. -/
structure Takes (s : Progress) (w : List Char) (k : Kept) (t : Progress) : Prop where
  /-- The text is in front of what is left. -/
  rest_eq : s.place.rest = w ++ t.place.rest
  /-- The offset is behind the text. -/
  offset_eq : t.offset = s.offset + (String.ofList w).utf8ByteSize
  /-- The parts are kept one after another. -/
  captures_eq : t.captures = k.foldl (fun m e => Keyed.insert e.1 e.2 m) s.captures

variable {s t u : Progress} {v w : List Char} {j k : Kept}

theorem takes_nil (s : Progress) : s.Takes [] [] s := ⟨rfl, rfl, rfl⟩

theorem Takes.trans (h : s.Takes v j t) (h' : t.Takes w k u) : s.Takes (v ++ w) (j ++ k) u where
  rest_eq := by rw [h.rest_eq, h'.rest_eq, List.append_assoc]
  offset_eq := by
    rw [h'.offset_eq, h.offset_eq, String.ofList_append, String.utf8ByteSize_append, Nat.add_assoc]
  captures_eq := by rw [h'.captures_eq, h.captures_eq, List.foldl_append]

/-- The text that is kept is the text that was taken. -/
theorem Takes.keep (h : s.Takes w k t) (name : Option String) :
    s.Takes w (k ++ (name.map fun n => (n, String.ofList w)).toList) (t.keep name s.place) := by
  cases name with
  | none => simpa [Progress.keep] using h
  | some n =>
    have htext : s.place.textUpTo t.offset = w := by
      rw [h.offset_eq]
      exact Place.textUpTo_eq h.rest_eq
    refine ⟨h.rest_eq, h.offset_eq, ?_⟩
    simp only [Progress.keep, htext, h.captures_eq, Option.map_some, Option.toList_some,
      List.foldl_append, List.foldl_cons, List.foldl_nil]

end Progress

/-! ### Matches -/

namespace Pattern

open Progress

/-- Steps that take texts as `D` says take texts one behind another. -/
theorem exists_iterated_of_steps {step : Progress → List Progress} {D : List Char → Kept → Prop}
    (hstep : ∀ s, ∀ t ∈ step s, ∃ w k, D w k ∧ s.Takes w k t) {n : Nat} {s t : Progress}
    (h : Steps step n s t) : ∃ w k, Iterated D n w k ∧ s.Takes w k t := by
  induction h with
  | refl s => exact ⟨[], [], ⟨rfl, rfl⟩, takes_nil s⟩
  | @tail n s t u _ hu ih =>
    obtain ⟨v, j, hv, htakes⟩ := ih
    obtain ⟨w, k, hw, htakes'⟩ := hstep t u hu
    exact ⟨v ++ w, j ++ k, ⟨v, j, w, k, hv, hw, rfl, rfl⟩, htakes.trans htakes'⟩

/-- From the start of a match to its end, a text is taken that the pattern describes. -/
theorem describes_of_mem_ends (p : Pattern) {s t : Progress} (ht : t ∈ p.ends s) :
    ∃ w k, p.Describes w k ∧ s.Takes w k t := by
  induction p generalizing s t with
  | empty =>
    rw [List.mem_singleton.1 ht]
    exact ⟨[], [], ⟨rfl, rfl⟩, takes_nil s⟩
  | chars set =>
    obtain ⟨⟨before, offset, rest⟩, captures⟩ := s
    cases rest with
    | nil => simp [ends] at ht
    | cons c cs =>
      simp only [ends] at ht
      split at ht
      · rename_i hc
        rw [List.mem_singleton.1 ht]
        have hsize : (String.ofList [c]).utf8ByteSize = c.utf8Size := Place.utf8ByteSize_cons c []
        refine ⟨[c], [], ⟨c, hc, rfl, rfl⟩, rfl, ?_, rfl⟩
        rw [hsize]
        rfl
      · simp at ht
  | assertion a =>
    simp only [ends] at ht
    split at ht
    · rw [List.mem_singleton.1 ht]
      exact ⟨[], [], ⟨rfl, rfl⟩, takes_nil s⟩
    · simp at ht
  | group name p ih =>
    obtain ⟨u, hu, rfl⟩ := List.mem_map.1 ht
    obtain ⟨w, j, hdescribes, htakes⟩ := ih hu
    exact ⟨w, _, ⟨j, hdescribes, rfl⟩, htakes.keep name⟩
  | cat p q ihp ihq =>
    obtain ⟨u, hu, ht⟩ := List.mem_flatMap.1 (mem_of_mem_distinct ht)
    obtain ⟨v, j, hp, htakes⟩ := ihp hu
    obtain ⟨v', j', hq, htakes'⟩ := ihq ht
    exact ⟨v ++ v', j ++ j', ⟨v, j, v', j', hp, hq, rfl, rfl⟩, htakes.trans htakes'⟩
  | alt p q ihp ihq =>
    rcases List.mem_append.1 (mem_of_mem_distinct ht) with ht | ht
    · obtain ⟨w, k, hp, htakes⟩ := ihp ht
      exact ⟨w, k, .inl hp, htakes⟩
    · obtain ⟨w, k, hq, htakes⟩ := ihq ht
      exact ⟨w, k, .inr hq, htakes⟩
  -- a repetition is so many rounds, each of which the hypothesis describes
  | repeated least most greedy p ih =>
    obtain ⟨n, hleast, hmost, hsteps⟩ := exists_steps_of_mem_repeatEnds ht
    obtain ⟨w, k, hiterated, htakes⟩ := exists_iterated_of_steps (fun _ _ hu => ih hu) hsteps
    exact ⟨w, k, ⟨n, hleast, hmost, hiterated⟩, htakes⟩

/-! ### Occurrences -/

/-- A match is of a part of the text that the pattern describes, with its captures. -/
theorem exists_describes_of_next? {p : Pattern} {text : String} {i : Nat} {x : Occurrence}
    (h : p.next? text i = some x) :
    ∃ w k, p.Describes w k ∧ x.captures = Keyed.ofList k ∧ w <:+: text.toList := by
  obtain ⟨start, stop, hstart, -, hmatch, rfl, -⟩ := next?_eq_some h
  obtain ⟨w, k, hdescribes, htakes⟩ := p.describes_of_mem_ends (List.mem_of_head? hmatch)
  obtain ⟨front, hfront, -⟩ := hstart.exists_append
  refine ⟨w, k, hdescribes, htakes.captures_eq, front, stop.place.rest, ?_⟩
  have hrest : start.rest = w ++ stop.place.rest := htakes.rest_eq
  rw [List.append_assoc, ← hrest, ← hfront]
  rfl

/-- The named parts of an occurrence are parts of a text that the pattern describes. -/
theorem exists_describes_of_mem_occurrences {p : Pattern} {text : String} {x : Occurrence}
    (h : x ∈ p.occurrences text) :
    ∃ w k, p.Describes w k ∧ x.captures = Keyed.ofList k ∧ w <:+: text.toList := by
  -- each occurrence is the next match from some place on
  have hfrom (i : Nat) (hi : x ∈ p.occurrencesFrom text i) :
      ∃ j, p.next? text j = some x := by
    induction i using occurrencesFrom.induct p text with
    | case1 i hnone =>
      rw [occurrencesFrom_of_none hnone] at hi
      cases hi
    | case2 i y hy ih =>
      rw [occurrencesFrom_of_some hy] at hi
      rcases List.mem_cons.1 hi with rfl | hi
      · exact ⟨i, hy⟩
      · exact ih hi
  obtain ⟨i, hi⟩ := hfrom 0 h
  exact exists_describes_of_next? hi

end Pattern

end CancellationPolicy
