/-! # Stable sorting

`stableSort le xs` puts the entries of a list in the order `le` and keeps the
order of entries that `le` does not tell apart.

Main statements: `stableSort_perm` and `mem_stableSort`.
-/

namespace CancellationPolicy

variable {α : Type} (le : α → α → Bool)

/-- Inserts an entry in front of the first one that may follow it. -/
def insertOrdered (x : α) : List α → List α
  | [] => [x]
  | y :: ys => if le x y then x :: y :: ys else y :: insertOrdered x ys

/-- The entries of a list in an order; entries that may stand either way keep the
order they have. -/
def stableSort (xs : List α) : List α := xs.foldr (insertOrdered le) []

theorem insertOrdered_perm (x : α) (ys : List α) : (insertOrdered le x ys).Perm (x :: ys) := by
  induction ys with
  | nil => exact .refl _
  | cons y ys ih =>
    unfold insertOrdered
    split
    · exact .refl _
    · exact (ih.cons y).trans (.swap x y ys)

/-- Sorting only moves entries. -/
theorem stableSort_perm (xs : List α) : (stableSort le xs).Perm xs := by
  induction xs with
  | nil => exact .refl _
  | cons x xs ih => exact (insertOrdered_perm le x _).trans (ih.cons x)

theorem mem_stableSort {x : α} {xs : List α} : x ∈ stableSort le xs ↔ x ∈ xs :=
  (stableSort_perm le xs).mem_iff

end CancellationPolicy
