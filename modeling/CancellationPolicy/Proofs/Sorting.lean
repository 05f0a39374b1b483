import CancellationPolicy.Sorting
import Mathlib.Data.List.Forall2

/-!
# Laws of stable sorting

`stableSort le` puts a list in order (`pairwise_stableSort`) and keeps the order of entries that may
stand either way (`filter_stableSort`).  Where all entries of one list may stand in front of all
entries of another, the two are sorted apart (`stableSort_append`).  Lists whose entries are related
one by one, and compare alike, are so when they are sorted (`forall₂_stableSort`).
-/

namespace CancellationPolicy

variable {α : Type} {le : α → α → Bool} {x : α} {xs ys : List α}

theorem mem_insertOrdered {z : α} : z ∈ insertOrdered le x ys ↔ z = x ∨ z ∈ ys := by
  rw [(insertOrdered_perm le x ys).mem_iff, List.mem_cons]

/-! ### Order -/

/-- Inserting into an ordered list leaves it ordered. -/
theorem pairwise_insertOrdered (total : ∀ a b, le a b = true ∨ le b a = true)
    (trans : ∀ a b c, le a b = true → le b c = true → le a c = true)
    (h : ys.Pairwise fun a b => le a b = true) :
    (insertOrdered le x ys).Pairwise fun a b => le a b = true := by
  induction ys with
  | nil => exact List.pairwise_singleton _ _
  | cons y ys ih =>
    obtain ⟨hy, hys⟩ := List.pairwise_cons.1 h
    unfold insertOrdered
    split
    -- the new entry is in front of the first one, and so of all
    · rename_i hxy
      refine List.pairwise_cons.2 ⟨fun z hz => ?_, h⟩
      rcases List.mem_cons.1 hz with rfl | hz
      · exact hxy
      · exact trans _ _ _ hxy (hy z hz)
    · rename_i hxy
      refine List.pairwise_cons.2 ⟨fun z hz => ?_, ih hys⟩
      rcases mem_insertOrdered.1 hz with rfl | hz
      · exact (total y z).resolve_right hxy
      · exact hy z hz

/-- A sorted list is ordered. -/
theorem pairwise_stableSort (total : ∀ a b, le a b = true ∨ le b a = true)
    (trans : ∀ a b c, le a b = true → le b c = true → le a c = true) (xs : List α) :
    (stableSort le xs).Pairwise fun a b => le a b = true := by
  induction xs with
  | nil => exact .nil
  | cons x xs ih => exact pairwise_insertOrdered total trans ih

/-- Sorting by a relation that compares any two entries puts them in this relation. -/
theorem pairwise_stableSort_decide {r : α → α → Prop} [DecidableRel r]
    (total : ∀ a b, r a b ∨ r b a) (trans : ∀ a b c, r a b → r b c → r a c) (xs : List α) :
    (stableSort (fun a b => decide (r a b)) xs).Pairwise r := by
  refine (pairwise_stableSort ?_ ?_ xs).imp of_decide_eq_true
  · simpa only [decide_eq_true_eq] using total
  · simpa only [decide_eq_true_eq] using trans

/-! ### Stability -/

/-- Entries that are not ordered against each other keep their order. -/
theorem filter_insertOrdered {p : α → Bool} (h : ∀ a b, p a = true → p b = true → le a b = true) :
    (insertOrdered le x ys).filter p = (x :: ys).filter p := by
  induction ys with
  | nil => rfl
  | cons y ys ih =>
    unfold insertOrdered
    split
    · rfl
    · rename_i hxy
      by_cases hx : p x = true
      · -- an entry that is passed is not kept, since it would not have been passed otherwise
        have hy : p y ≠ true := fun hy => hxy (h x y hx hy)
        rw [List.filter_cons_of_neg hy, ih, List.filter_cons_of_pos hx, List.filter_cons_of_pos hx,
          List.filter_cons_of_neg hy]
      · rw [List.filter_cons_of_neg hx] at ih ⊢
        rw [List.filter_cons, List.filter_cons, ih]

/-- Entries of which each may stand in front of each keep their order. -/
theorem filter_stableSort {p : α → Bool} (h : ∀ a b, p a = true → p b = true → le a b = true)
    (xs : List α) : (stableSort le xs).filter p = xs.filter p := by
  induction xs with
  | nil => rfl
  | cons x xs ih =>
    show (insertOrdered le x (stableSort le xs)).filter p = _
    rw [filter_insertOrdered h, List.filter_cons, List.filter_cons, ih]

/-! ### Appending -/

theorem insertOrdered_append (h : ∀ y ∈ ys, le x y = true) :
    insertOrdered le x (xs ++ ys) = insertOrdered le x xs ++ ys := by
  induction xs with
  | nil =>
    cases ys with
    | nil => rfl
    | cons y ys => simp [insertOrdered, h y List.mem_cons_self]
  | cons z xs ih =>
    rw [List.cons_append, insertOrdered, insertOrdered, ih]
    split <;> rfl

/-- Two lists of which one is in front are sorted one by one. -/
theorem stableSort_append (h : ∀ x ∈ xs, ∀ y ∈ ys, le x y = true) :
    stableSort le (xs ++ ys) = stableSort le xs ++ stableSort le ys := by
  induction xs with
  | nil => rfl
  | cons x xs ih =>
    have hx : ∀ y ∈ stableSort le ys, le x y = true := fun y hy =>
      h x List.mem_cons_self y ((mem_stableSort le).1 hy)
    show insertOrdered le x (stableSort le (xs ++ ys)) = _
    rw [ih fun z hz => h z (List.mem_cons_of_mem _ hz), insertOrdered_append hx]
    rfl

/-! ### Related entries -/

variable {r : α → α → Prop} {x' : α} {xs' : List α}

/-- Lists that agree in order stay in step when an entry is inserted. -/
theorem forall₂_insertOrdered (hle : ∀ a b a' b', r a a' → r b b' → le a b = le a' b')
    (hx : r x x') (h : List.Forall₂ r xs xs') :
    List.Forall₂ r (insertOrdered le x xs) (insertOrdered le x' xs') := by
  induction h with
  | nil => exact .cons hx .nil
  | @cons y y' ys ys' hy hys ih =>
    rw [insertOrdered, insertOrdered, hle x y x' y' hx hy]
    split
    · exact .cons hx (.cons hy hys)
    · exact .cons hy ih

/-- Lists that agree in order stay in step when they are sorted. -/
theorem forall₂_stableSort (hle : ∀ a b a' b', r a a' → r b b' → le a b = le a' b')
    (h : List.Forall₂ r xs xs') : List.Forall₂ r (stableSort le xs) (stableSort le xs') := by
  induction h with
  | nil => exact .nil
  | cons hx _ ih => exact forall₂_insertOrdered hle hx ih

end CancellationPolicy
