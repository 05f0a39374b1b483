import CancellationPolicy.Proofs.Record.Outcome

/-!
# Writes that may change places

Two paths are independent if they are different and neither lies above the other.  A write at one of
them does not change what becomes of a write at the other (`outcome_write_of_independent`), whether
it takes effect or not, so the two may change places (`write_comm`).  Writes at pairwise independent
paths may therefore be made in any order (`writeAll_perm`), whatever the record holds before.
-/

namespace CancellationPolicy

/-- Whether two paths are different and neither is above the other. -/
def Path.Independent (p q : String) : Prop := p ≠ q ∧ Apart p q

instance (p q : String) : Decidable (Path.Independent p q) := inferInstanceAs (Decidable (_ ∧ _))

theorem Path.Independent.symm {p q : String} (h : Independent p q) : Independent q p :=
  ⟨h.1.symm, h.2.symm⟩

namespace Record

variable {p q : String} {fields others : List (String × Value)}

/-! ### Two writes -/

theorem outcome_store_of_independent (h : Path.Independent p q) (r : Record) (v w : Value) :
    (r.store p v).outcome q w = r.outcome q w := by
  have hmem : q ∈ Keyed.names (r.store p v).leaves ↔ q ∈ Keyed.names r.leaves :=
    Keyed.mem_names_insert.trans (or_iff_right h.1.symm)
  -- the new path is none of those above and below the other one
  have hcollides : (∃ p' ∈ Keyed.names (r.store p v).leaves, Path.Above p' q ∨ Path.Above q p') ↔
      ∃ p' ∈ Keyed.names r.leaves, Path.Above p' q ∨ Path.Above q p' := by
    constructor
    · rintro ⟨p', hp', habove⟩
      rcases Keyed.mem_names_insert.1 hp' with rfl | hp'
      · exact absurd habove (not_or.2 h.2)
      · exact ⟨p', hp', habove⟩
    · rintro ⟨p', hp', habove⟩
      exact ⟨p', Keyed.mem_names_insert.2 (.inr hp'), habove⟩
  simp only [outcome_eq_ite, hmem, hcollides]

/-- A write at an independent path does not change what comes of another one. -/
theorem outcome_write_of_independent (h : Path.Independent p q) (r : Record) (v w : Value) :
    (r.write p v).outcome q w = r.outcome q w := by
  by_cases hp : r.outcome p v = .written
  · rw [write_of_written hp]
    exact outcome_store_of_independent h r v w
  · rw [write_of_not_written hp]

/-- Storing at two paths gives the same in either order. -/
theorem store_comm (h : p ≠ q) (r : Record) (v w : Value) :
    (r.store p v).store q w = (r.store q w).store p v := by
  have hleaves := Keyed.insert_comm h.symm (coerce p v) (coerce q w) r.leaves
  have hflags := Keyed.insert_comm h.symm () () r.flags
  unfold store
  cases isGarbled p v <;> cases isGarbled q w <;> simp [hleaves, hflags]

/-- Writes at independent paths may change places, whatever becomes of each of them. -/
theorem write_comm (h : Path.Independent p q) (r : Record) (v w : Value) :
    (r.write p v).write q w = (r.write q w).write p v := by
  have hq := outcome_write_of_independent h r v w
  have hp := outcome_write_of_independent h.symm r w v
  by_cases hpv : r.outcome p v = .written
  · by_cases hqw : r.outcome q w = .written
    · rw [write_of_written (hq.trans hqw), write_of_written (hp.trans hpv), write_of_written hpv,
        write_of_written hqw, store_comm h.1]
    · have hqw' : (r.write p v).outcome q w ≠ .written := by rwa [hq]
      rw [write_of_not_written hqw', write_of_not_written hqw]
  · have hpv' : (r.write q w).outcome p v ≠ .written := by rwa [hp]
    rw [write_of_not_written hpv, write_of_not_written hpv']

/-! ### Many writes -/

/-- Writes at pairwise independent paths may be made in any order. -/
theorem writeAll_perm (hperm : fields.Perm others)
    (hfields : fields.Pairwise fun f g => Path.Independent f.1 g.1) (r : Record) :
    r.writeAll fields = r.writeAll others := by
  have hcomm : ∀ f ∈ fields, ∀ g ∈ fields, ∀ r : Record,
      (r.write f.1 f.2).write g.1 g.2 = (r.write g.1 g.2).write f.1 f.2 := by
    refine List.Pairwise.forall_of_forall_of_flip (fun _ _ _ => rfl) ?_ ?_
    · exact hfields.imp fun h r => write_comm h r _ _
    · exact hfields.imp fun h r => write_comm h.symm r _ _
  exact hperm.foldl_eq' hcomm r

end Record

end CancellationPolicy
