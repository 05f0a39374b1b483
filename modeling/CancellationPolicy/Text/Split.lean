/-! # Cutting at separators

`split p cs` cuts a text at every character that satisfies `p`. There is always
one part more than there are separators, and parts may be empty.
-/

namespace CancellationPolicy.Text

/-- The parts of a text between the characters that satisfy `p`. -/
def split (p : Char → Bool) : List Char → List (List Char)
  | [] => [[]]
  | c :: cs =>
    if p c then [] :: split p cs
    else match split p cs with
      | [] => [[c]]
      | w :: ws => (c :: w) :: ws

theorem split_ne_nil (p : Char → Bool) (cs : List Char) : split p cs ≠ [] := by
  cases cs with
  | nil => simp [split]
  | cons c cs =>
    unfold split
    split
    · simp
    · split <;> simp

/-- A separator cuts a text in two. -/
theorem split_append_cons {p : Char → Bool} (xs ys : List Char) {s : Char} (hs : p s = true) :
    split p (xs ++ s :: ys) = split p xs ++ split p ys := by
  induction xs with
  | nil => simp [split, hs]
  | cons x xs ih =>
    rw [List.cons_append, split, split, ih]
    split
    · rfl
    · cases hx : split p xs with
      | nil => exact absurd hx (split_ne_nil p xs)
      | cons w ws => rfl

/-- A text without separators is its only part. -/
theorem split_of_no_sep {p : Char → Bool} {cs : List Char} (h : ∀ c ∈ cs, p c = false) :
    split p cs = [cs] := by
  induction cs with
  | nil => rfl
  | cons c cs ih =>
    rw [split, h c List.mem_cons_self, ih fun d hd => h d (List.mem_cons_of_mem _ hd)]
    rfl

/-- Joining the parts by the separator gives the text back. -/
theorem intercalate_split (s : Char) (cs : List Char) :
    [s].intercalate (split (· == s) cs) = cs := by
  induction cs with
  | nil => rfl
  | cons c cs ih =>
    unfold split
    split
    · rename_i h
      have hc : c = s := by simpa using h
      subst hc
      -- the separator starts an empty part
      cases hs : split (· == c) cs with
      | nil => exact absurd hs (split_ne_nil _ cs)
      | cons w ws =>
        have : [c].intercalate ([] :: w :: ws) = c :: [c].intercalate (w :: ws) := by
          simp [List.intercalate]
        rw [this, ← hs, ih]
    · split
      -- any other character joins the first part
      · rename_i h; exact absurd h (split_ne_nil _ cs)
      · rename_i w ws h
        rw [h] at ih
        cases ws with
        | nil => simpa [List.intercalate] using ih
        | cons v vs =>
          have : [s].intercalate ((c :: w) :: v :: vs) = c :: [s].intercalate (w :: v :: vs) := by
            simp [List.intercalate]
          rw [this, ih]

end CancellationPolicy.Text
