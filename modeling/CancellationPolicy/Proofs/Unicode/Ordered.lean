import CancellationPolicy.Text.Blank
import CancellationPolicy.Unicode.CaseOrbit
import CancellationPolicy.Unicode.Classes
import CancellationPolicy.Unicode.Property
import Mathlib.Data.List.Sort

/-!
# Sets in order

What a set holds is told from its switches one after another, which is right only if these are in
order (`CharSet.IsOrdered`).  Sets are made from others, from lists of points or ranges, or from the
tables of the character database, and all of them are in order.

In a table a set is written as the distances between its switches, so that there is nothing to check
(`isOrdered_ofDistances`).
-/

namespace CancellationPolicy

namespace CharSet

/-- Whether the switches of a set are in order. -/
def IsOrdered (s : CharSet) : Prop := s.switches.Pairwise (· ≤ ·)

variable {s t : CharSet} {c : Char}

/-- To compare neighbours is enough. -/
theorem isOrdered_of_isChain (h : s.switches.IsChain (· ≤ ·)) : s.IsOrdered := h.pairwise

theorem isOrdered_empty : (∅ : CharSet).IsOrdered := List.Pairwise.nil

/-- A range is in order, also if it is empty. -/
theorem isOrdered_range (lo hi : Nat) : (range lo hi).IsOrdered := by
  unfold range
  split
  · rename_i hle
    exact List.pairwise_pair.2 (Nat.le_succ_of_le hle)
  · exact isOrdered_empty

theorem isOrdered_single (n : Nat) : (single n).IsOrdered := isOrdered_range n n

theorem isOrdered_scalars : scalars.IsOrdered := isOrdered_of_isChain (by decide)

/-! ### Combinations -/

theorem IsOrdered.union (hs : s.IsOrdered) (ht : t.IsOrdered) : (s ∪ t).IsOrdered :=
  pairwise_combine _ hs ht

theorem IsOrdered.inter (hs : s.IsOrdered) (ht : t.IsOrdered) : (s ∩ t).IsOrdered :=
  pairwise_combine _ hs ht

theorem IsOrdered.sdiff (hs : s.IsOrdered) (ht : t.IsOrdered) : (s \ t).IsOrdered :=
  pairwise_combine _ hs ht

theorem IsOrdered.symmDiff (hs : s.IsOrdered) (ht : t.IsOrdered) : (s.symmDiff t).IsOrdered :=
  pairwise_combine _ hs ht

theorem IsOrdered.complement (hs : s.IsOrdered) : s.complement.IsOrdered :=
  isOrdered_scalars.sdiff hs

/-- A union holds what either set holds. -/
theorem holds_union (hs : s.IsOrdered) (ht : t.IsOrdered) :
    (s ∪ t).holds c = true ↔ s.holds c = true ∨ t.holds c = true := by
  have hunion : (s ∪ t).holds c = (s.holds c || t.holds c) := contains_combine _ hs ht _
  rw [hunion, Bool.or_eq_true]

/-- A union of sets in order, made one by one, is in order. -/
theorem isOrdered_foldl {α : Type} {f : α → CharSet} (hf : ∀ x, (f x).IsOrdered) (xs : List α)
    (hs : s.IsOrdered) : (xs.foldl (fun s x => s ∪ f x) s).IsOrdered := by
  induction xs generalizing s with
  | nil => exact hs
  | cons x xs ih => exact ih (hs.union (hf x))

theorem isOrdered_ofRanges (rs : List (Nat × Nat)) : (ofRanges rs).IsOrdered :=
  isOrdered_foldl (f := fun r : Nat × Nat => range r.1 r.2) (fun _ => isOrdered_range _ _) rs
    isOrdered_empty

/-! ### Points -/

theorem insertPoint_eq_orderedInsert (p : Nat) (ps : List Nat) :
    insertPoint p ps = ps.orderedInsert (· ≤ ·) p := by
  induction ps with
  | nil => rfl
  | cons q ps ih => rw [insertPoint, List.orderedInsert, ih]

/-- A set of points is in order, whatever the order of the points. -/
theorem isOrdered_ofPoints (cs : List Nat) : (ofPoints cs).IsOrdered := by
  have hpoints : (cs.foldr (fun c ps => insertPoint c (insertPoint (c + 1) ps)) []).Pairwise
      (· ≤ ·) := by
    induction cs with
    | nil => exact .nil
    | cons c cs ih =>
      rw [List.foldr_cons, insertPoint_eq_orderedInsert, insertPoint_eq_orderedInsert]
      exact (ih.orderedInsert (c + 1)).orderedInsert c
  -- the switches are some of the points and those behind them
  exact hpoints.sublist (edges_sublist _ _ _)

/-- With both cases of its members a set is still in order. -/
theorem IsOrdered.caseClosed (hs : s.IsOrdered) : s.caseClosed.IsOrdered := by
  unfold CharSet.caseClosed
  split
  · exact hs
  · exact hs.union (isOrdered_ofPoints _)

/-! ### Tables -/

/-- A set that is written as distances is in order, whatever the distances are. -/
theorem isOrdered_ofDistances (text : String) : (ofDistances text).IsOrdered := by
  have hgo (n : Nat) (digits : Option Nat) (cs : List Char) :
      (∀ p ∈ ofDistances.go n digits cs, n ≤ p) ∧
        (ofDistances.go n digits cs).Pairwise (· ≤ ·) := by
    induction cs generalizing n digits with
    | nil =>
      cases digits with
      | none => simp [ofDistances.go]
      | some d => simp [ofDistances.go]
    | cons c cs ih =>
      cases digits with
      | none =>
        rw [ofDistances.go]
        split
        · exact ih n none
        · exact ih n (some _)
      | some d =>
        rw [ofDistances.go]
        split
        · -- a switch is behind the one before, and in front of all others
          obtain ⟨hle, hpairwise⟩ := ih (n + d) none
          refine ⟨fun p hp => ?_, List.pairwise_cons.2 ⟨hle, hpairwise⟩⟩
          rcases List.mem_cons.1 hp with rfl | hp
          · exact Nat.le_add_right n d
          · exact Nat.le_trans (Nat.le_add_right n d) (hle p hp)
        · exact ih n (some _)
  exact (hgo 0 none text.toList).2

end CharSet

theorem isOrdered_blanks : blanks.IsOrdered := CharSet.isOrdered_of_isChain (by decide)

namespace Unicode

variable {s : CharSet} {name kind value : List Char}

theorem isOrdered_digits : digits.IsOrdered := CharSet.isOrdered_of_isChain (by decide +kernel)

theorem isOrdered_wordChars : wordChars.IsOrdered :=
  CharSet.isOrdered_of_isChain (by decide +kernel)

/-- A set of a table is in order. -/
theorem isOrdered_of_find? {name : String} {table : List NamedSet}
    (h : NamedSet.find? name table = some s) : s.IsOrdered := by
  obtain ⟨x, -, rfl⟩ := Option.map_eq_some_iff.1 h
  exact CharSet.isOrdered_ofDistances _

/-- The characters of a category make up a set in order. -/
theorem isOrdered_of_category? {name : String} (h : category? name = some s) : s.IsOrdered := by
  unfold category? at h
  split at h
  · obtain rfl := Option.some.inj h
    exact CharSet.isOrdered_scalars
  split at h
  · obtain rfl := Option.some.inj h
    exact CharSet.isOrdered_range 0 127
  split at h
  · obtain ⟨t, ht, rfl⟩ := Option.map_eq_some_iff.1 h
    exact (isOrdered_of_find? ht).complement
  split at h
  · obtain rfl := Option.some.inj h
    refine CharSet.isOrdered_foldl (fun n => ?_) _ CharSet.isOrdered_empty
    cases hfind : NamedSet.find? n categories with
    | none => exact CharSet.isOrdered_empty
    | some t => exact isOrdered_of_find? hfind
  · exact isOrdered_of_find? h

/-- The characters with a property make up a set in order. -/
theorem isOrdered_of_property? (h : property? name = some s) : s.IsOrdered := by
  unfold property? at h
  dsimp only at h
  split at h
  · rename_i htrait
    obtain rfl := Option.some.inj h
    exact isOrdered_of_find? htrait
  split at h
  · rename_i hcategory
    obtain rfl := Option.some.inj h
    exact isOrdered_of_category? hcategory
  · exact isOrdered_of_find? h

/-- The characters for which a property has a value make up a set in order. -/
theorem isOrdered_of_propertyValue? (h : propertyValue? kind value = some s) : s.IsOrdered := by
  unfold propertyValue? at h
  dsimp only at h
  split at h
  · exact isOrdered_of_category? h
  split at h
  · exact isOrdered_of_find? h
  split at h
  · unfold extendedScript? at h
    split at h
    · rename_i hfind
      obtain rfl := Option.some.inj h
      exact isOrdered_of_find? hfind
    · exact isOrdered_of_find? h
  · cases h

end Unicode

end CancellationPolicy
