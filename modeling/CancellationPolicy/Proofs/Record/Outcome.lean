import CancellationPolicy.Proofs.Record.FirstWrite
import Mathlib.Logic.Basic

/-!
# What becomes of a write

Several things can be wrong with a write at once; `outcome_eq_ite` says which of them is reported.
A write that is refused changes nothing, and one that takes effect changes nothing but the entries
of its path (`filter_leaves_write`, `filter_malformed_write`).  After many writes a path therefore
holds the value of the first write at it that took effect (`get?_writeAll_eq_or`).
-/

namespace CancellationPolicy

theorem Value.isEmpty_iff {v : Value} : v.isEmpty = true ↔ v = .text "" := by
  cases v <;> simp [isEmpty]

namespace Record

variable {r : Record} {p path : String} {v : Value}

/-! ### The outcome -/

/-- A path is not valid exactly if it is empty or has an empty segment. -/
theorem not_isValid_iff : (!Path.isValid path) = true ↔ path = "" ∨ "" ∈ Path.segments path := by
  rw [Bool.not_eq_true', ← Bool.not_eq_true, Path.isValid_iff, not_and_or, not_not]
  simp

/-- A path collides exactly if one that is held is above or below it. -/
theorem collides_iff :
    r.collides path = true ↔
      ∃ p ∈ Keyed.names r.leaves, Path.Above p path ∨ Path.Above path p := by
  rw [← Bool.not_eq_false, collides_eq_false_iff]
  simp [Path.Apart, imp_iff_not_or]

/-- The outcome is that of the first check that fails: of the path by itself, of the value, of the
path among those in use, and of those above and below it. -/
theorem outcome_eq_ite (r : Record) (path : String) (v : Value) :
    r.outcome path v =
      if path = "" ∨ "" ∈ Path.segments path then .invalidPath
      else if v = .text "" then .empty
      else if path ∈ Keyed.names r.leaves then .occupied
      else if ∃ p ∈ Keyed.names r.leaves, Path.Above p path ∨ Path.Above path p then .conflict
      else .written := by
  unfold outcome
  simp only [not_isValid_iff, Value.isEmpty_iff, Keyed.has_iff, collides_iff]

/-! ### One write -/

/-- A write changes no leaf at another path. -/
theorem filter_leaves_write (r : Record) (path : String) (v : Value) :
    (r.write path v).leaves.filter (·.1 ≠ path) = r.leaves.filter (·.1 ≠ path) := by
  unfold write
  split
  · exact Keyed.filter_insert path _ r.leaves
  · rfl

/-- A write changes no flag of another path. -/
theorem filter_malformed_write (r : Record) (path : String) (v : Value) :
    (r.write path v).malformed.filter (· ≠ path) = r.malformed.filter (· ≠ path) := by
  have hnames (flags : Keyed Unit) :
      (Keyed.names flags).filter (· ≠ path) = (flags.filter (·.1 ≠ path)).map Prod.fst :=
    List.filter_map
  unfold write
  split
  · unfold store malformed
    rw [hnames, hnames]
    split
    · rw [Keyed.filter_insert]
    · rfl
  · rfl

/-! ### Many writes -/

/-- The writes that take effect when values are written in order. -/
def effective (r : Record) : List (String × Value) → List (String × Value)
  | [] => []
  | (path, v) :: fields =>
    let rest := effective (r.write path v) fields
    if r.outcome path v = .written then (path, v) :: rest else rest

/-- The effective writes are among all writes. -/
theorem effective_subset (r : Record) (fields : List (String × Value)) :
    r.effective fields ⊆ fields := by
  induction fields generalizing r with
  | nil => exact List.Subset.refl _
  | cons f fields ih =>
    obtain ⟨path, v⟩ := f
    rw [effective]
    split
    · exact List.cons_subset_cons _ (ih _)
    · exact List.Subset.trans (ih _) (List.subset_cons_self _ _)

/-- What a path holds after writes: what it held before, or else the value of the first write at it
that took effect. -/
theorem get?_writeAll_eq_or (r : Record) (fields : List (String × Value)) (p : String) :
    (r.writeAll fields).get? p =
      (r.get? p).or (((r.effective fields).find? (·.1 == p)).map fun f => coerce p f.2) := by
  induction fields generalizing r with
  | nil => simp [writeAll, effective]
  | cons f fields ih =>
    obtain ⟨q, v⟩ := f
    have hstep : r.writeAll ((q, v) :: fields) = (r.write q v).writeAll fields := rfl
    rw [hstep, ih, effective]
    by_cases h : r.outcome q v = .written
    · rw [if_pos h]
      by_cases hqp : q = p
      · -- nothing was held before, and the write is the first one at the path
        subst hqp
        have hnone : r.get? q = none := get?_eq_none_iff.2 (outcome_eq_written_iff.1 h).2.2.1
        rw [get?_write_self h, hnone, List.find?_cons_of_pos (by simp)]
        rfl
      · rw [get?_write_of_ne (Ne.symm hqp), List.find?_cons_of_neg (by simpa using hqp)]
    · rw [if_neg h, write_of_not_written h]

/-- What a path of a new record holds after writes was written at it. -/
theorem exists_mem_of_get?_writeAll {fields : List (String × Value)} {w : Value}
    (h : (new.writeAll fields).get? p = some w) : ∃ v, (p, v) ∈ fields ∧ w = coerce p v := by
  rw [get?_writeAll_eq_or] at h
  obtain ⟨f, hf, rfl⟩ := Option.map_eq_some_iff.1 h
  have hpath : f.1 = p := by simpa using List.find?_some hf
  exact ⟨f.2, effective_subset new fields (hpath ▸ List.mem_of_find?_eq_some hf), rfl⟩

/-- After any writes the outcome of a further one is decided by the path itself, then by the value,
then by the paths in use.  A write that is refused leaves the values and the flags as they are, and
one that takes effect leaves those of all other paths.  Every path holds the value of the first
write at it that took effect, coerced, and nothing if there was none. -/
theorem write_writeAll (fields : List (String × Value)) (path : String) (v : Value) :
    let r := new.writeAll fields
    (r.outcome path v =
      if path = "" ∨ "" ∈ Path.segments path then .invalidPath
      else if v = .text "" then .empty
      else if path ∈ Keyed.names r.leaves then .occupied
      else if ∃ p ∈ Keyed.names r.leaves, Path.Above p path ∨ Path.Above path p then .conflict
      else .written) ∧
    (r.outcome path v ≠ .written →
      (r.write path v).leaves = r.leaves ∧ (r.write path v).malformed = r.malformed) ∧
    (r.write path v).leaves.filter (·.1 ≠ path) = r.leaves.filter (·.1 ≠ path) ∧
    (r.write path v).malformed.filter (· ≠ path) = r.malformed.filter (· ≠ path) ∧
    ∀ p, r.get? p = ((new.effective fields).find? (·.1 == p)).map fun f => coerce p f.2 := by
  intro r
  refine ⟨outcome_eq_ite r path v, fun h => ?_, filter_leaves_write r path v,
    filter_malformed_write r path v, fun p => ?_⟩
  · rw [write_of_not_written h]
    exact ⟨rfl, rfl⟩
  · exact get?_writeAll_eq_or new fields p

end Record

end CancellationPolicy
