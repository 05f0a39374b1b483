import CancellationPolicy.Pattern.Reach

/-!
# Boundaries of characters

`IsBoundary text i` says that the byte offset `i` does not lie inside a character of `text`.  The
boundaries are the offsets of the places that the start of the text reaches (`isBoundary_iff`).

An occurrence that a search finds starts and stops at boundaries, and the search goes on at a
boundary or one byte behind the text (`isCursor_resume`), and passes over no place but the start
of the occurrence and those inside it (`resume_le`).
-/

namespace CancellationPolicy

/-- Whether a byte offset of a text is one at which a character starts or the text ends. -/
def IsBoundary (text : String) (i : Nat) : Prop :=
  ∃ front rest, text = front ++ rest ∧ i = front.utf8ByteSize

/-- Whether a search can go on at an offset: at a boundary, or right behind the text. -/
def IsCursor (text : String) (i : Nat) : Prop := IsBoundary text i ∨ i = text.utf8ByteSize + 1

theorem IsBoundary.le {text : String} {i : Nat} (h : IsBoundary text i) :
    i ≤ text.utf8ByteSize := by
  obtain ⟨front, rest, rfl, rfl⟩ := h
  rw [String.utf8ByteSize_append]
  exact Nat.le_add_right _ _

theorem isBoundary_zero (text : String) : IsBoundary text 0 := ⟨"", text, by simp, rfl⟩

/-! ### Places at boundaries -/

namespace Place

theorem utf8ByteSize_cons (c : Char) (cs : List Char) :
    (String.ofList (c :: cs)).utf8ByteSize = c.utf8Size + (String.ofList cs).utf8ByteSize := by
  rw [String.ofList_cons, String.utf8ByteSize_append, String.utf8ByteSize_singleton]

/-- What lies between two places is the text in front of the second. -/
theorem Reaches.exists_append {p q : Place} (h : p.Reaches q) :
    ∃ front, p.rest = front ++ q.rest ∧
      q.offset = p.offset + (String.ofList front).utf8ByteSize := by
  induction h with
  | refl p => exact ⟨[], rfl, rfl⟩
  | @step _ _ c _ _ _ ih =>
    obtain ⟨front, hrest, hoffset⟩ := ih
    refine ⟨c :: front, congrArg (c :: ·) hrest, ?_⟩
    rw [hoffset, utf8ByteSize_cons]
    exact Nat.add_assoc _ _ _

/-- Reading a part of the rest moves the place by its size. -/
theorem exists_reaches_of_append (p : Place) {front rest : List Char}
    (h : p.rest = front ++ rest) :
    ∃ q, p.Reaches q ∧ q.offset = p.offset + (String.ofList front).utf8ByteSize := by
  induction front generalizing p with
  | nil => exact ⟨p, .refl p, rfl⟩
  | cons c front ih =>
    obtain ⟨before, offset, cs⟩ := p
    obtain rfl : cs = c :: (front ++ rest) := h
    obtain ⟨q, hq, hoffset⟩ := ih ⟨some c, offset + c.utf8Size, front ++ rest⟩ rfl
    refine ⟨q, .step hq, ?_⟩
    rw [hoffset, utf8ByteSize_cons]
    exact Nat.add_assoc _ _ _

end Place

/-- The boundaries of a text are the offsets of its places. -/
theorem isBoundary_iff {text : String} {i : Nat} :
    IsBoundary text i ↔ ∃ q, (Place.ofText text.toList).Reaches q ∧ q.offset = i := by
  constructor
  · rintro ⟨front, rest, rfl, rfl⟩
    have hrest : (Place.ofText (front ++ rest).toList).rest = front.toList ++ rest.toList :=
      String.toList_append
    obtain ⟨q, hq, hoffset⟩ := Place.exists_reaches_of_append _ hrest
    refine ⟨q, hq, ?_⟩
    rw [hoffset, String.ofList_toList]
    exact Nat.zero_add _
  · rintro ⟨q, hq, rfl⟩
    obtain ⟨front, hrest, hoffset⟩ := hq.exists_append
    refine ⟨String.ofList front, String.ofList q.rest, ?_, ?_⟩
    · rw [← String.ofList_append, ← hrest]
      exact (String.ofList_toList).symm
    · rw [hoffset]
      exact Nat.zero_add _

/-! ### Going on behind an occurrence -/

/-- The character at an offset is the next one of the place that is reached there. -/
theorem charAt?_of_reaches {p q : Place} (h : p.Reaches q) :
    charAt? (q.offset - p.offset) p.rest = q.rest.head? := by
  induction h with
  | refl p =>
    rw [Nat.sub_self]
    cases p.rest <;> rfl
  | @step before offset c cs q h ih =>
    have hc := c.utf8Size_pos
    have hle : offset + c.utf8Size ≤ q.offset := h.offset_le
    obtain ⟨n, hn⟩ : ∃ n, q.offset - offset = n + 1 := ⟨q.offset - offset - 1, by omega⟩
    show charAt? (q.offset - offset) (c :: cs) = _
    rw [hn, charAt?, if_pos (by omega), ← ih]
    show _ = charAt? (q.offset - (offset + c.utf8Size)) cs
    congr 1
    omega

/-- The offset at which a search goes on behind an occurrence that stops at a place. -/
theorem resume_eq {text : String} {s : Span} {q : Place}
    (hq : (Place.ofText text.toList).Reaches q) (hs : s.stop = q.offset) :
    s.resume text = if s.start = s.stop then
      match q.rest with
      | [] => text.utf8ByteSize + 1
      | c :: _ => q.offset + c.utf8Size
    else s.stop := by
  have hchar : charAt? s.stop text.toList = q.rest.head? := by
    rw [hs, ← charAt?_of_reaches hq]
    rfl
  unfold Span.resume Span.isEmpty
  by_cases he : s.start = s.stop
  · rw [hchar, hs]
    cases q.rest <;> simp [he, hs]
  · simp [he]

/-- A search goes on at a cursor. -/
theorem isCursor_resume {text : String} {s : Span} {q : Place}
    (hq : (Place.ofText text.toList).Reaches q) (hs : s.stop = q.offset) :
    IsCursor text (s.resume text) := by
  rw [resume_eq hq hs]
  split
  · cases hrest : q.rest with
    | nil => exact .inr rfl
    | cons c cs =>
      obtain ⟨before, offset, rest⟩ := q
      obtain rfl : rest = c :: cs := hrest
      exact .inl (isBoundary_iff.2 ⟨_, hq.trans (.step (.refl _)), rfl⟩)
  · exact .inl (isBoundary_iff.2 ⟨q, hq, hs.symm⟩)

/-- A search does not go on before the end of a match. -/
theorem stop_le_resume {text : String} {s : Span} (h : s.stop ≤ text.utf8ByteSize) :
    s.stop ≤ s.resume text := by
  by_cases he : s.start = s.stop
  · have hlt := Span.lt_resume (s := s) (he ▸ h) (Nat.le_refl _)
    omega
  · unfold Span.resume Span.isEmpty
    simp [he]

/-- A place behind the start of an occurrence that does not lie inside it is not in front of the
offset at which the search goes on. -/
theorem resume_le {text : String} {s : Span} {q q' : Place}
    (hq : (Place.ofText text.toList).Reaches q) (hs : s.stop = q.offset)
    (hq' : (Place.ofText text.toList).Reaches q') (hlt : s.start < q'.offset)
    (hle : s.stop ≤ q'.offset) : s.resume text ≤ q'.offset := by
  rw [resume_eq hq hs]
  split
  · -- behind an empty occurrence the search goes on at the next place, which comes next in order
    have hreach : q.Reaches q' := hq.of_offset_le hq' (by omega)
    cases hreach with
    | refl => omega
    | step h => exact h.offset_le
  · exact hle

end CancellationPolicy
