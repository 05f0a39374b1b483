import CancellationPolicy.Text.Blank
import CancellationPolicy.Unicode.Classes
import CancellationPolicy.Unicode.Uppercase
import Mathlib.Data.Nat.Bitwise

/-!
# Upper case of upper case

The upper case of a character is not empty (`uppercase_ne_nil`), and upper case leaves it as it is
(`uppercase_of_mem_uppercase`).  It holds no blank and no digit, unless the character is one itself
(`isBlank_of_mem_uppercase`, `isDigit_of_mem_uppercase`).

A character is either left alone or mapped to entries of the tables, of which there are about 1400.
What has to be known of them is that none has an upper case of its own, is a blank or is a digit.
Comparing all pairs takes minutes.  So sets of code points are written as the bits of a number
(`bits`), and one operation on two numbers tells that the sets have no member in common
(`not_mem_of_bits_and`).
-/

namespace CancellationPolicy.Unicode

/-! ### Sets of code points as numbers -/

/-- The number whose bits of value one are at the given places. -/
def bits (cs : List Nat) : Nat := cs.foldr (fun c rest => rest ||| 1 <<< c) 0

/-- The bits of a set are set at its numbers. -/
theorem testBit_bits (cs : List Nat) (c : Nat) : (bits cs).testBit c = decide (c ∈ cs) := by
  induction cs with
  | nil => simp [bits]
  | cons d cs ih =>
    have hcons : bits (d :: cs) = bits cs ||| 1 <<< d := rfl
    rw [hcons, Nat.testBit_or, ih, Nat.one_shiftLeft, Nat.testBit_two_pow]
    by_cases hd : d = c
    · simp [hd]
    · have hd' : ¬ c = d := fun h => hd h.symm
      simp [hd, hd']

theorem not_mem_of_bits_and {cs ds : List Nat} (h : bits cs &&& bits ds = 0) {c : Nat}
    (hc : c ∈ cs) : c ∉ ds := by
  intro hd
  have hbit := congrArg (·.testBit c) h
  simp [testBit_bits, hc, hd] at hbit

end Unicode

/-! ### Stretches -/

namespace Stretch

theorem mem_members_of_covers {s : Stretch} {c : Nat} (h : s.covers c = true) : c ∈ s.members := by
  simp only [covers, Bool.and_eq_true, decide_eq_true_eq, beq_iff_eq] at h
  obtain ⟨⟨hfirst, hlast⟩, hstep⟩ := h
  refine List.mem_map.2 ⟨(c - s.first) / s.step, List.mem_range.2 ?_, ?_⟩
  · exact Nat.lt_succ_of_le (Nat.div_le_div_right (Nat.sub_le_sub_right hlast _))
  · have hdiv := Nat.div_add_mod' (c - s.first) s.step
    omega

/-- An image is found in a stretch that has the number. -/
theorem exists_of_find? {c u : Nat} {ss : List Stretch} (h : find? c ss = some u) :
    ∃ s ∈ ss, c ∈ s.members ∧ u = s.image c := by
  induction ss with
  | nil => cases h
  | cons s ss ih =>
    rw [find?] at h
    split at h
    · cases h
    · split at h
      · rename_i hcovers
        exact ⟨s, List.mem_cons_self, mem_members_of_covers hcovers, (Option.some.inj h).symm⟩
      · obtain ⟨t, ht, hmem⟩ := ih h
        exact ⟨t, List.mem_cons_of_mem _ ht, hmem⟩

end Stretch

namespace Unicode

/-- What is looked up is in the table. -/
theorem mem_of_lookup? {c : Nat} {us : List Nat} {table : List (Nat × List Nat)}
    (h : lookup? c table = some us) : (c, us) ∈ table := by
  induction table with
  | nil => cases h
  | cons e table ih =>
    obtain ⟨k, v⟩ := e
    rw [lookup?] at h
    split at h
    · cases h
    · split at h
      · rename_i hk
        rw [hk, ← Option.some.inj h]
        exact List.mem_cons_self
      · exact List.mem_cons_of_mem _ (ih h)

/-! ### The tables of upper case -/

/-- The code points that have an upper case. -/
def upperSources : List Nat :=
  upperSequences.map Prod.fst ++ upperStretches.flatMap Stretch.members

/-- The code points of which the upper cases consist. -/
def upperImages : List Nat :=
  upperSequences.flatMap Prod.snd ++ upperStretches.flatMap fun s => s.members.map s.image

/-- No uppercase letter has an uppercase of its own, or is a blank or a digit. -/
theorem bits_upperImages_and :
    bits upperImages &&& bits (upperSources ++ blanks.points ++ digits.points) = 0 := by
  decide +kernel

theorem isValidChar_of_mem_upperImages : ∀ u ∈ upperImages, u.isValidChar := by decide +kernel

theorem ne_nil_of_mem_upperSequences : ∀ e ∈ upperSequences, e.2 ≠ [] := by decide +kernel

variable {c d : Char}

/-- A character is its own upper case, or its upper case comes from the tables. -/
theorem uppercase_cases (c : Char) :
    uppercase c = [c] ∨
      c.toNat ∈ upperSources ∧ uppercase c ≠ [] ∧ ∀ d ∈ uppercase c, d.toNat ∈ upperImages := by
  -- the images are code points of characters
  have htoNat {u : Nat} (hu : u ∈ upperImages) : (Char.ofNat u).toNat ∈ upperImages := by
    rw [Char.ofNat, dif_pos (isValidChar_of_mem_upperImages u hu)]
    exact hu
  unfold uppercase
  split
  · rename_i us hus
    have hmem := mem_of_lookup? hus
    refine .inr ⟨List.mem_append_left _ (List.mem_map.2 ⟨_, hmem, rfl⟩), ?_, fun d hd => ?_⟩
    · exact fun hnil => ne_nil_of_mem_upperSequences _ hmem (List.map_eq_nil_iff.1 hnil)
    · obtain ⟨u, hu, rfl⟩ := List.mem_map.1 hd
      exact htoNat (List.mem_append_left _ (List.mem_flatMap.2 ⟨_, hmem, hu⟩))
  · split
    · rename_i u hu
      obtain ⟨s, hs, hmem, rfl⟩ := Stretch.exists_of_find? hu
      refine .inr ⟨List.mem_append_right _ (List.mem_flatMap.2 ⟨s, hs, hmem⟩),
        List.cons_ne_nil _ _, fun d hd => ?_⟩
      obtain rfl := List.mem_singleton.1 hd
      exact htoNat (List.mem_append_right _
        (List.mem_flatMap.2 ⟨s, hs, List.mem_map_of_mem hmem⟩))
    · exact .inl rfl

theorem uppercase_ne_nil (c : Char) : uppercase c ≠ [] := by
  rcases uppercase_cases c with h | ⟨-, hne, -⟩
  · rw [h]
    exact List.cons_ne_nil _ _
  · exact hne

/-- What holds of a character and of no entry of the tables is inherited by no other character. -/
theorem eq_of_mem_uppercase (hd : d ∈ uppercase c) (h : d.toNat ∉ upperImages) : d = c := by
  rcases uppercase_cases c with hself | ⟨-, -, himages⟩
  · rw [hself] at hd
    exact List.mem_singleton.1 hd
  · exact absurd (himages d hd) h

/-- An uppercase letter is its own uppercase. -/
theorem uppercase_of_mem_uppercase (hd : d ∈ uppercase c) : uppercase d = [d] := by
  rcases uppercase_cases c with hself | ⟨-, -, himages⟩
  · rw [hself] at hd
    rwa [List.mem_singleton.1 hd]
  · rcases uppercase_cases d with h | ⟨hsource, -, -⟩
    · exact h
    · have hdisjoint := not_mem_of_bits_and bits_upperImages_and (himages d hd)
      exact absurd (List.mem_append_left _ (List.mem_append_left _ hsource)) hdisjoint

/-- No uppercase of anything but a blank is a blank. -/
theorem isBlank_of_mem_uppercase (hd : d ∈ uppercase c) (h : isBlank c = false) :
    isBlank d = false := by
  by_contra hblank
  have hmem : d.toNat ∈ blanks.points :=
    CharSet.mem_points_of_contains (by decide) (Bool.eq_true_of_not_eq_false hblank)
  have hdc : d = c := eq_of_mem_uppercase hd fun himage =>
    not_mem_of_bits_and bits_upperImages_and himage
      (List.mem_append_left _ (List.mem_append_right _ hmem))
  rw [hdc] at hblank
  exact hblank h

/-- A digit in the upper case of a character is the character. -/
theorem isDigit_of_mem_uppercase (hd : d ∈ uppercase c) (h : digits.holds d = true) : d = c := by
  have hmem : d.toNat ∈ digits.points := CharSet.mem_points_of_contains (by decide +kernel) h
  exact eq_of_mem_uppercase hd fun himage =>
    not_mem_of_bits_and bits_upperImages_and himage (List.mem_append_right _ hmem)

end CancellationPolicy.Unicode
