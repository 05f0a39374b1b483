import CancellationPolicy.Proofs.Keyed
import CancellationPolicy.Proofs.Record.Path
import CancellationPolicy.Record.Basic

/-!
# Well-formed records

`Record.WellFormed` says what holds of every record that writes build from the empty one
(`wellFormed_writeAll`): its paths are valid and none lies above another, no value is empty, and
the flags are exactly the count fields that hold a text, each of them a text that is no count.

A write stores at most one value, under the conditions of `outcome_eq_written_iff`; the invariant is
restored clause by clause from these.  The values and the flags are two collections, which only
agree because a text is stored at a count field exactly when the path is flagged
(`isGarbled_iff`).
-/

namespace CancellationPolicy.Record

variable {r : Record} {path : String} {v w : Value}

/-! ### Coercion -/

/-- A text that is stored is the text that was written, and no count at a count field. -/
theorem coerce_eq_text {s : String} :
    coerce path v = .text s ↔ v = .text s ∧ (Path.isCount path = true → Count.parse? s = none) := by
  cases v with
  | number n => simp [coerce]
  | text t =>
    unfold coerce
    by_cases hp : Path.isCount path = true
    · cases hc : Count.parse? t with
      | none =>
        simp only [hp, hc, if_true, Value.text.injEq]
        constructor
        · rintro rfl
          exact ⟨rfl, fun _ => hc⟩
        · exact And.left
      | some n =>
        simp only [hp, hc, if_true, Value.text.injEq, reduceCtorEq, false_iff, not_and]
        rintro rfl h
        rw [h trivial] at hc
        cases hc
    · simp [hp]

theorem isEmpty_coerce (path : String) (h : v.isEmpty = false) :
    (coerce path v).isEmpty = false := by
  cases hc : coerce path v with
  | number n => rfl
  | text s =>
    rw [(coerce_eq_text.1 hc).1] at h
    exact h

/-- A path is flagged exactly if it is that of a count field and a text is stored there. -/
theorem isGarbled_iff :
    isGarbled path v = true ↔ Path.isCount path = true ∧ ∃ s, coerce path v = .text s := by
  cases v with
  | number n => simp [isGarbled, coerce]
  | text s =>
    rw [isGarbled, Bool.and_eq_true, Option.isNone_iff_eq_none]
    refine and_congr_right fun hp => ?_
    constructor
    · intro hs
      exact ⟨s, coerce_eq_text.2 ⟨rfl, fun _ => hs⟩⟩
    · rintro ⟨t, ht⟩
      obtain ⟨hst, hnone⟩ := coerce_eq_text.1 ht
      rw [Value.text.inj hst]
      exact hnone hp

/-! ### What a write does -/

/-- A path does not collide exactly if it is apart from all that are held. -/
theorem collides_eq_false_iff :
    r.collides path = false ↔ ∀ p ∈ Keyed.names r.leaves, Path.Apart p path := by
  rw [collides, List.any_eq_false]
  constructor
  · intro h p hp
    obtain ⟨l, hl, rfl⟩ := List.mem_map.1 hp
    have hl := h l hl
    rw [Bool.or_eq_true, not_or, Path.isAbove_iff, Path.isAbove_iff] at hl
    exact hl
  · intro h l hl
    rw [Bool.or_eq_true, not_or, Path.isAbove_iff, Path.isAbove_iff]
    exact h l.1 (Keyed.mem_names_of_mem hl)

/-- A write takes effect if the path is valid, the value not empty, and the path neither in use
nor above or below one in use. -/
theorem outcome_eq_written_iff :
    r.outcome path v = .written ↔
      Path.isValid path = true ∧ v.isEmpty = false ∧ path ∉ Keyed.names r.leaves ∧
        ∀ p ∈ Keyed.names r.leaves, Path.Apart p path := by
  rw [← collides_eq_false_iff, ← Keyed.has_iff]
  unfold outcome
  cases Path.isValid path <;> cases v.isEmpty <;> cases Keyed.has path r.leaves <;>
    cases r.collides path <;> simp

theorem write_of_written (h : r.outcome path v = .written) : r.write path v = r.store path v := by
  rw [write, h]

/-- A write that takes no effect changes nothing. -/
theorem write_of_not_written (h : r.outcome path v ≠ .written) : r.write path v = r := by
  unfold write
  split
  · rename_i hw
    exact absurd hw h
  · rfl

/-- Storing adds a leaf at a new path, with the value as it is read. -/
theorem mem_leaves_store (h : path ∉ Keyed.names r.leaves) {l : String × Value} :
    l ∈ (r.store path v).leaves ↔ l = (path, coerce path v) ∨ l ∈ r.leaves :=
  Keyed.mem_insert_iff h

/-- Storing adds a flag if the value is garbled. -/
theorem mem_malformed_store {p : String} :
    p ∈ (r.store path v).malformed ↔ isGarbled path v = true ∧ p = path ∨ p ∈ r.malformed := by
  unfold malformed store
  split
  · rename_i hg
    rw [Keyed.mem_names_insert]
    simp [hg]
  · rename_i hg
    simp [hg]

/-! ### The invariant -/

/-- What holds of every record that writes have built. -/
structure WellFormed (r : Record) : Prop where
  /-- Every path has one value. -/
  sorted : Keyed.Sorted r.leaves
  /-- Every path is valid: it is not empty and has no empty segment. -/
  valid : ∀ l ∈ r.leaves, l.1 ≠ "" ∧ ∀ s ∈ Path.segments l.1, s ≠ ""
  /-- The segments of no path are a proper prefix of those of another. -/
  apart : ∀ l ∈ r.leaves, ∀ m ∈ r.leaves, ¬Path.Above l.1 m.1
  /-- No value is empty. -/
  filled : ∀ l ∈ r.leaves, l.2.isEmpty = false
  /-- Every path is flagged once. -/
  sorted_flags : Keyed.Sorted r.flags
  /-- The paths flagged are those that end in the name of a count and hold a text. -/
  mem_malformed_iff : ∀ p, p ∈ r.malformed ↔ Path.EndsInCount p ∧ ∃ s, (p, .text s) ∈ r.leaves
  /-- A text at such a path is no count. -/
  garbled : ∀ p s, (p, .text s) ∈ r.leaves → Path.EndsInCount p → Count.parse? s = none

/-- The empty record is well-formed. -/
theorem wellFormed_new : WellFormed new where
  sorted := .nil
  valid := by simp [new]
  apart := by simp [new]
  filled := by simp [new]
  sorted_flags := .nil
  mem_malformed_iff := by simp [new, malformed, Keyed.names]
  garbled := by simp [new]

/-- Storing a value where a write takes effect restores the invariant. -/
theorem WellFormed.store (hr : r.WellFormed) (h : r.outcome path v = .written) :
    (r.store path v).WellFormed := by
  obtain ⟨hvalid, hfilled, hnew, hapart⟩ := outcome_eq_written_iff.1 h
  -- a leaf is the new one, of which the outcome says what is needed, or one of the old ones
  have hmem := fun l => mem_leaves_store (v := v) (l := l) hnew
  constructor
  case sorted => exact Keyed.insert_sorted hr.sorted _ _
  case valid =>
    intro l hl
    rcases (hmem l).1 hl with rfl | hl
    · exact Path.isValid_iff.1 hvalid
    · exact hr.valid l hl
  case apart =>
    intro l hl m hm
    rcases (hmem l).1 hl with rfl | hl <;> rcases (hmem m).1 hm with rfl | hm
    · exact Path.not_above_self path
    -- the outcome excludes old paths on either side of the new one
    · exact (hapart m.1 (Keyed.mem_names_of_mem hm)).2
    · exact (hapart l.1 (Keyed.mem_names_of_mem hl)).1
    · exact hr.apart l hl m hm
  case filled =>
    intro l hl
    rcases (hmem l).1 hl with rfl | hl
    · exact isEmpty_coerce path hfilled
    · exact hr.filled l hl
  case sorted_flags =>
    unfold Record.store
    dsimp only
    split
    · exact Keyed.insert_sorted hr.sorted_flags _ _
    · exact hr.sorted_flags
  case mem_malformed_iff =>
    intro p
    -- the new path is flagged if the value that is stored is still a text
    rw [mem_malformed_store, hr.mem_malformed_iff, ← Path.isCount_iff, isGarbled_iff]
    constructor
    · rintro (⟨⟨hc, s, hs⟩, rfl⟩ | ⟨hc, s, hs⟩)
      · exact ⟨hc, s, (hmem _).2 (.inl (by rw [hs]))⟩
      · exact ⟨hc, s, (hmem _).2 (.inr hs)⟩
    · rintro ⟨hc, s, hs⟩
      rcases (hmem _).1 hs with hs | hs
      · obtain ⟨rfl, hs⟩ := Prod.mk.inj hs
        exact .inl ⟨⟨hc, s, hs.symm⟩, rfl⟩
      · exact .inr ⟨hc, s, hs⟩
  case garbled =>
    intro p s hs hp
    rcases (hmem _).1 hs with hs | hs
    · -- a text that is a count has been stored as a number
      obtain ⟨rfl, hs⟩ := Prod.mk.inj hs
      exact (coerce_eq_text.1 hs.symm).2 (Path.isCount_iff.2 hp)
    · exact hr.garbled p s hs hp

/-- A write keeps the invariant, whatever comes of it. -/
theorem WellFormed.write (hr : r.WellFormed) (path : String) (v : Value) :
    (r.write path v).WellFormed := by
  by_cases h : r.outcome path v = .written
  · rw [write_of_written h]
    exact hr.store h
  · rw [write_of_not_written h]
    exact hr

/-- Writes keep the invariant. -/
theorem WellFormed.writeAll (hr : r.WellFormed) (fields : List (String × Value)) :
    (r.writeAll fields).WellFormed := by
  induction fields generalizing r with
  | nil => exact hr
  | cons f fields ih => exact ih (hr.write f.1 f.2)

/-- Every record that is built from the empty one by writes, of any values at any paths, is
well-formed. -/
theorem wellFormed_writeAll (fields : List (String × Value)) : (new.writeAll fields).WellFormed :=
  wellFormed_new.writeAll fields

end CancellationPolicy.Record
