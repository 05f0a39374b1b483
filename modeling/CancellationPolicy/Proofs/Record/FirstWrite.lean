import CancellationPolicy.Proofs.Record.WellFormed

/-!
# The first write wins

What later writes can do to a value: nothing (`get?_writeAll_of_eq_some`).  They can only add values
and flags.  Where no path that is written lies above or below a given one, the value there after
all writes is that of the first of them at this path (`get?_writeAll`).
-/

namespace CancellationPolicy.Record

variable {r : Record} {p q : String} {v w : Value}

/-! ### One write -/

theorem get?_eq_none_iff : r.get? p = none ↔ p ∉ Keyed.names r.leaves := Keyed.find?_eq_none_iff

/-- A write at another path does not change what is held. -/
theorem get?_write_of_ne (h : p ≠ q) (r : Record) (v : Value) :
    (r.write q v).get? p = r.get? p := by
  unfold write
  split
  · exact Keyed.find?_insert_of_ne h _ _
  · rfl

/-- A write that takes effect stores the value as coerced. -/
theorem get?_write_self (h : r.outcome p v = .written) :
    (r.write p v).get? p = some (coerce p v) := by
  rw [write_of_written h]
  exact Keyed.find?_insert_self _ _ _

/-- Nothing is written where there is a value. -/
theorem outcome_ne_written_of_get? (h : r.get? p = some w) (v : Value) :
    r.outcome p v ≠ .written := by
  intro hw
  have hnone := get?_eq_none_iff.2 (outcome_eq_written_iff.1 hw).2.2.1
  rw [h] at hnone
  cases hnone

/-- A value stays through a write. -/
theorem get?_write_of_eq_some (h : r.get? p = some w) (q : String) (v : Value) :
    (r.write q v).get? p = some w := by
  by_cases hpq : p = q
  · subst hpq
    rw [write_of_not_written (outcome_ne_written_of_get? h v)]
    exact h
  · rw [get?_write_of_ne hpq]
    exact h

theorem mem_names_of_write (h : p ∈ Keyed.names (r.write q v).leaves) :
    p = q ∨ p ∈ Keyed.names r.leaves := by
  unfold write at h
  split at h
  · exact Keyed.mem_names_insert.1 h
  · exact .inr h

theorem leaves_subset_write (r : Record) (q : String) (v : Value) :
    r.leaves ⊆ (r.write q v).leaves := by
  intro l hl
  by_cases h : r.outcome q v = .written
  · rw [write_of_written h]
    exact (mem_leaves_store (outcome_eq_written_iff.1 h).2.2.1).2 (.inr hl)
  · rw [write_of_not_written h]
    exact hl

theorem malformed_subset_write (r : Record) (q : String) (v : Value) :
    r.malformed ⊆ (r.write q v).malformed := by
  intro p hp
  unfold write
  split
  · exact mem_malformed_store.2 (.inr hp)
  · exact hp

/-! ### Many writes -/

variable {fields : List (String × Value)}

/-- What is held stays as it is. -/
theorem get?_writeAll_of_eq_some (h : r.get? p = some w) (fields : List (String × Value)) :
    (r.writeAll fields).get? p = some w := by
  induction fields generalizing r with
  | nil => exact h
  | cons f fields ih => exact ih (get?_write_of_eq_some h f.1 f.2)

theorem leaves_subset_writeAll (r : Record) (fields : List (String × Value)) :
    r.leaves ⊆ (r.writeAll fields).leaves := by
  induction fields generalizing r with
  | nil => exact fun _ h => h
  | cons f fields ih => exact fun _ h => ih _ (leaves_subset_write r f.1 f.2 h)

theorem malformed_subset_writeAll (r : Record) (fields : List (String × Value)) :
    r.malformed ⊆ (r.writeAll fields).malformed := by
  induction fields generalizing r with
  | nil => exact fun _ h => h
  | cons f fields ih => exact fun _ h => ih _ (malformed_subset_write r f.1 f.2 h)

/-- Among writes of values that are not empty, at paths none of which lies above or below a valid
path, the first one at that path decides what it holds. -/
theorem get?_writeAll (hp : Path.isValid p = true) (hnone : r.get? p = none)
    (hr : ∀ q ∈ Keyed.names r.leaves, Path.Apart q p)
    (hfields : ∀ f ∈ fields, f.2.isEmpty = false ∧ Path.Apart f.1 p) :
    (r.writeAll fields).get? p = (fields.find? (·.1 == p)).map (fun f => coerce p f.2) := by
  induction fields generalizing r with
  | nil => exact hnone
  | cons f fields ih =>
    obtain ⟨q, v⟩ := f
    obtain ⟨hv, hq⟩ := hfields (q, v) List.mem_cons_self
    have hrest := fun f hf => hfields f (List.mem_cons_of_mem _ hf)
    rw [writeAll, List.foldl_cons, ← writeAll]
    by_cases hqp : q = p
    · -- the first write at the path takes effect, and the value stays from then on
      subst hqp
      have hw : r.outcome q v = .written :=
        outcome_eq_written_iff.2 ⟨hp, hv, get?_eq_none_iff.1 hnone, hr⟩
      rw [get?_writeAll_of_eq_some (get?_write_self hw)]
      simp
    · rw [List.find?_cons_of_neg (by simpa using hqp)]
      apply ih
      · rw [get?_write_of_ne (Ne.symm hqp)]
        exact hnone
      · intro q' hq'
        rcases mem_names_of_write hq' with rfl | hq'
        · exact hq
        · exact hr q' hq'
      · exact hrest

end CancellationPolicy.Record
