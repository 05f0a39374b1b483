import CancellationPolicy.Proofs.Pattern.Boundary
import CancellationPolicy.Text.Blank

/-!
# Sizes of squeezed texts

A squeezed text has the characters of the text that are no blanks, and one space between two words.
So its size is what the words cost with one byte for the end of each, less one byte, since there is
no space behind the last word.

`charge` adds this up from the left and has to know of the text before only if it ends in a word
(`utf8ByteSize_squeeze`).  A character that is taken out of the text may end a word, or join two,
but the charge never gets greater (`charge_le_cons`).  Hence a text squeezes to no more bytes than
it has (`utf8ByteSize_squeeze_le`), and what is left of it to no more bytes than all of it
(`utf8ByteSize_squeeze_le_of_sublist`).
-/

namespace CancellationPolicy.Text

open Place (utf8ByteSize_cons)

variable {cs ds : List Char}

/-! ### What a text is charged for -/

/-- The bytes that the rest of a text, behind a word or not, is charged for: its characters that are
no blanks, and one for every end of a word. -/
def charge (inWord : Bool) : List Char → Nat
  | [] => inWord.toNat
  | c :: cs => if isBlank c then inWord.toNat + charge false cs else c.utf8Size + charge true cs

/-- Behind a word, at most one byte more is charged. -/
theorem charge_bounds (cs : List Char) :
    charge false cs ≤ charge true cs ∧ charge true cs ≤ charge false cs + 1 := by
  cases cs with
  | nil => exact ⟨Nat.zero_le 1, Nat.le_refl 1⟩
  | cons c cs =>
    simp only [charge, Bool.toNat_false, Bool.toNat_true]
    split
    · omega
    · omega

/-- One more character in front does not make the charge less. -/
theorem charge_le_cons (inWord : Bool) (c : Char) (cs : List Char) :
    charge inWord cs ≤ charge inWord (c :: cs) := by
  obtain ⟨hlow, hhigh⟩ := charge_bounds cs
  rw [charge]
  split
  · -- a blank ends a word, and what is behind it is no longer in one
    cases inWord with
    | false => exact Nat.le_add_left _ _
    | true =>
      rw [Bool.toNat_true, Nat.add_comm]
      exact hhigh
  · cases inWord with
    | false => exact Nat.le_trans hlow (Nat.le_add_left _ _)
    | true => exact Nat.le_add_left _ _

/-- A part of a text is charged for no more. -/
theorem charge_le_of_sublist (h : ds.Sublist cs) (inWord : Bool) :
    charge inWord ds ≤ charge inWord cs := by
  induction h generalizing inWord with
  | slnil => exact Nat.le_refl _
  | cons c _ ih => exact Nat.le_trans (ih inWord) (charge_le_cons inWord c _)
  | cons_cons c _ ih =>
    simp only [charge]
    split
    · exact Nat.add_le_add_left (ih false) _
    · exact Nat.add_le_add_left (ih true) _

/-- Every blank pays for the end of the word before it, and only the last word has none behind
it. -/
theorem charge_le (cs : List Char) (inWord : Bool) :
    charge inWord cs ≤ (String.ofList cs).utf8ByteSize + 1 := by
  induction cs generalizing inWord with
  | nil =>
    have hword : inWord.toNat ≤ 1 := Bool.toNat_le inWord
    exact Nat.le_trans hword (Nat.le_add_left _ _)
  | cons c cs ih =>
    have hword : inWord.toNat ≤ 1 := Bool.toNat_le inWord
    have hc := c.utf8Size_pos
    have hblank := ih false
    have hrest := ih true
    rw [charge, utf8ByteSize_cons]
    split
    · omega
    · omega

/-! ### Words -/

/-- The bytes of words, with one more for each. -/
def spread : List (List Char) → Nat
  | [] => 0
  | w :: ws => (String.ofList w).utf8ByteSize + 1 + spread ws

theorem spread_cons (w : List Char) (ws : List (List Char)) :
    spread (w :: ws) = (String.ofList w).utf8ByteSize + 1 + spread ws := rfl

theorem utf8ByteSize_append (cs ds : List Char) :
    (String.ofList (cs ++ ds)).utf8ByteSize =
      (String.ofList cs).utf8ByteSize + (String.ofList ds).utf8ByteSize := by
  rw [String.ofList_append, String.utf8ByteSize_append]

/-- Words are joined by one space less than there are words. -/
theorem utf8ByteSize_intercalate (ws : List (List Char)) :
    (String.ofList ([' '].intercalate ws)).utf8ByteSize = spread ws - 1 := by
  induction ws with
  | nil => rfl
  | cons w ws ih =>
    cases ws with
    | nil =>
      rw [List.intercalate_singleton]
      rfl
    | cons v ws =>
      have hspace : (String.ofList [' ']).utf8ByteSize = 1 := rfl
      have hone : 1 ≤ spread (v :: ws) := by
        rw [spread_cons]
        omega
      rw [List.intercalate_cons_cons, utf8ByteSize_append, utf8ByteSize_append, hspace, ih,
        spread_cons w]
      omega

/-- Behind a word, its end has to be paid if no further character of it follows. -/
theorem charge_true (cs : List Char) :
    charge true cs = charge false cs + if cs.head?.all isBlank then 1 else 0 := by
  cases cs with
  | nil => rfl
  | cons c cs =>
    rw [List.head?_cons, Option.all_some, charge, charge]
    split
    · rw [Bool.toNat_true, Bool.toNat_false]
      omega
    · rfl

theorem spread_words (cs : List Char) : spread (words cs) = charge false cs := by
  induction cs with
  | nil => rfl
  | cons c cs ih =>
    have htrue := charge_true cs
    rw [words, charge]
    split
    · rw [ih, Bool.toNat_false, Nat.zero_add]
    · have hone : (String.ofList [c]).utf8ByteSize = c.utf8Size := by
        rw [utf8ByteSize_cons]
        rfl
      split
      · rename_i hend
        rw [if_pos hend] at htrue
        rw [spread_cons, hone, ih, htrue]
        omega
      · rename_i hend
        rw [if_neg hend, Nat.add_zero] at htrue
        -- the character goes in front of the first word that follows
        cases hwords : words cs with
        | nil =>
          have hblank := words_eq_nil_iff.1 hwords
          have hall : cs.head?.all isBlank = true := by
            rw [Option.all_eq_true]
            intro d hd
            exact hblank d (List.mem_of_mem_head? hd)
          exact absurd hall hend
        | cons w ws =>
          rw [hwords, spread_cons] at ih
          dsimp only
          rw [spread_cons, utf8ByteSize_cons, htrue, ← ih]
          omega

/-! ### Squeezed texts -/

/-- A squeezed text has the bytes that are charged for, but for the last end of a word. -/
theorem utf8ByteSize_squeeze (cs : List Char) :
    (String.ofList (squeeze cs)).utf8ByteSize = charge false cs - 1 := by
  rw [squeeze, utf8ByteSize_intercalate, spread_words]

/-- Squeezing makes a text no longer. -/
theorem utf8ByteSize_squeeze_le (cs : List Char) :
    (String.ofList (squeeze cs)).utf8ByteSize ≤ (String.ofList cs).utf8ByteSize := by
  have hcharge := charge_le cs false
  rw [utf8ByteSize_squeeze]
  omega

/-- Characters that are taken out of a text do not make its squeezed form longer, be they blanks or
not. -/
theorem utf8ByteSize_squeeze_le_of_sublist (h : ds.Sublist cs) :
    (String.ofList (squeeze ds)).utf8ByteSize ≤ (String.ofList (squeeze cs)).utf8ByteSize := by
  rw [utf8ByteSize_squeeze, utf8ByteSize_squeeze]
  exact Nat.sub_le_sub_right (charge_le_of_sublist h false) 1

end CancellationPolicy.Text
