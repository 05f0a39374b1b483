import CancellationPolicy.Text.Blank
import Mathlib.Data.List.DropRight

/-!
# Trimmed texts

What is left of a text without the blanks at its ends starts and ends with no blank
(`isTrimmed_trim`), and a text that does so is left as it is (`trim_eq_self`).  Blanks that are put
at its ends are what is taken off again (`exists_eq_append_trim`, `trim_append`).
-/

namespace CancellationPolicy.Text

/-- Whether a text has no blank at its ends. -/
def IsTrimmed (cs : List Char) : Prop :=
  (∀ c ∈ cs.head?, isBlank c = false) ∧ ∀ c ∈ cs.getLast?, isBlank c = false

instance (cs : List Char) : Decidable (IsTrimmed cs) :=
  decidable_of_iff (cs.head?.all (!isBlank ·) = true ∧ cs.getLast?.all (!isBlank ·) = true)
    (by simp [IsTrimmed, Option.all_eq_true])

theorem isBlank_head?_dropWhile {cs : List Char} :
    ∀ c ∈ (cs.dropWhile isBlank).head?, isBlank c = false := by
  intro c hc
  have h := List.head?_dropWhile_not isBlank cs
  rw [Option.mem_def.1 hc] at h
  exact h

/-- What is left starts where the text starts behind its leading blanks. -/
theorem trim_prefix_trimStart (cs : List Char) : trim cs <+: trimStart cs :=
  List.rdropWhile_prefix isBlank (trimStart cs)

/-- A trimmed text has no blanks at its ends. -/
theorem isTrimmed_trim (cs : List Char) : IsTrimmed (trim cs) := by
  constructor
  · intro c hc
    -- the trailing blanks are cut off a text that starts with no blank, so its head stays if any
    obtain ⟨blanks, hblanks⟩ := trim_prefix_trimStart cs
    have hhead : (trimStart cs).head? = some c := by
      rw [← hblanks, List.head?_append, Option.mem_def.1 hc]
      rfl
    exact isBlank_head?_dropWhile c hhead
  · intro c hc
    rw [trim, trimEnd, List.getLast?_reverse] at hc
    exact isBlank_head?_dropWhile c hc

/-! ### Texts without blanks at their ends -/

variable {l r cs : List Char}

theorem trimStart_eq_self (h : ∀ c ∈ cs.head?, isBlank c = false) : trimStart cs = cs := by
  cases cs with
  | nil => rfl
  | cons c cs => exact List.dropWhile_cons_of_neg (by simp [h c rfl])

/-- Nothing is taken off the front of a text that starts with no blank. -/
theorem trim_prefix_of_head? (h : ∀ c ∈ cs.head?, isBlank c = false) : trim cs <+: cs := by
  have hstart := trim_prefix_trimStart cs
  rwa [trimStart_eq_self h] at hstart

/-- A text without blanks at its ends is left as it is. -/
theorem trim_eq_self (hhead : ∀ c ∈ cs.head?, isBlank c = false)
    (hlast : ∀ c ∈ cs.getLast?, isBlank c = false) : trim cs = cs := by
  have hreverse : ∀ c ∈ cs.reverse.head?, isBlank c = false := by
    rwa [List.head?_reverse]
  have hend : cs.reverse.dropWhile isBlank = cs.reverse := trimStart_eq_self hreverse
  rw [trim, trimStart_eq_self hhead, trimEnd, hend, List.reverse_reverse]

/-! ### Blanks at the ends -/

/-- Only blanks are taken off. -/
theorem exists_eq_append_trim (cs : List Char) :
    ∃ l r, cs = l ++ trim cs ++ r ∧ (∀ c ∈ l, isBlank c = true) ∧ ∀ c ∈ r, isBlank c = true := by
  have hstart : cs.takeWhile isBlank ++ trimStart cs = cs := List.takeWhile_append_dropWhile
  have hend : trim cs ++ ((trimStart cs).reverse.takeWhile isBlank).reverse = trimStart cs := by
    rw [trim, trimEnd, ← List.reverse_append, List.takeWhile_append_dropWhile,
      List.reverse_reverse]
  refine ⟨cs.takeWhile isBlank, ((trimStart cs).reverse.takeWhile isBlank).reverse, ?_, ?_, ?_⟩
  · rw [List.append_assoc, hend, hstart]
  · intro c hc
    exact List.mem_takeWhile_imp hc
  · intro c hc
    exact List.mem_takeWhile_imp (List.mem_reverse.1 hc)

theorem trimStart_append (hl : ∀ c ∈ l, isBlank c = true) (cs : List Char) :
    trimStart (l ++ cs) = trimStart cs := List.dropWhile_append_of_pos hl

theorem trimEnd_append (hr : ∀ c ∈ r, isBlank c = true) (cs : List Char) :
    trimEnd (cs ++ r) = trimEnd cs := by
  have hreverse : ∀ c ∈ r.reverse, isBlank c = true := fun c hc => hr c (List.mem_reverse.1 hc)
  rw [trimEnd, List.reverse_append, List.dropWhile_append_of_pos hreverse, trimEnd]

/-- Blanks around a trimmed text are trimmed. -/
theorem trim_append (hcs : IsTrimmed cs) (hne : cs ≠ []) (hl : ∀ c ∈ l, isBlank c = true)
    (hr : ∀ c ∈ r, isBlank c = true) : trim (l ++ cs ++ r) = cs := by
  -- the text is not empty, so the blanks behind it are not at the front
  have hhead : ∀ c ∈ (cs ++ r).head?, isBlank c = false := by
    rw [List.head?_append_of_ne_nil _ hne]
    exact hcs.1
  have htrim : trim cs = cs := trim_eq_self hcs.1 hcs.2
  rw [trim, trimStart_eq_self hcs.1] at htrim
  rw [List.append_assoc, trim, trimStart_append hl, trimStart_eq_self hhead, trimEnd_append hr,
    htrim]

/-- A text is trimmed to nothing exactly if it is blank. -/
theorem trim_eq_nil_iff : trim cs = [] ↔ ∀ c ∈ cs, isBlank c = true := by
  constructor
  · intro hnil
    obtain ⟨l, r, hcs, hl, hr⟩ := exists_eq_append_trim cs
    rw [hnil, List.append_nil] at hcs
    intro c hc
    rw [hcs] at hc
    exact (List.mem_append.1 hc).elim (hl c) (hr c)
  · intro hblank
    have hstart : trimStart cs = [] := List.dropWhile_eq_nil_iff.2 hblank
    rw [trim, hstart]
    rfl

theorem trim_trim (cs : List Char) : trim (trim cs) = trim cs :=
  trim_eq_self (isTrimmed_trim cs).1 (isTrimmed_trim cs).2

/-- Blanks at the ends make no difference. -/
theorem trim_append_blanks (hl : ∀ c ∈ l, isBlank c = true) (hr : ∀ c ∈ r, isBlank c = true)
    (cs : List Char) : trim (l ++ cs ++ r) = trim cs := by
  by_cases hnil : trim cs = []
  · have hcs := trim_eq_nil_iff.1 hnil
    rw [hnil, trim_eq_nil_iff]
    intro c hc
    rcases List.mem_append.1 hc with hc | hc
    · exact (List.mem_append.1 hc).elim (hl c) (hcs c)
    · exact hr c hc
  · obtain ⟨l', r', hcs, hl', hr'⟩ := exists_eq_append_trim cs
    have htext : l ++ cs ++ r = (l ++ l') ++ trim cs ++ (r' ++ r) := by
      nth_rewrite 1 [hcs]
      simp only [List.append_assoc]
    rw [htext]
    refine trim_append (isTrimmed_trim cs) hnil (fun c hc => ?_) fun c hc => ?_
    · exact (List.mem_append.1 hc).elim (hl c) (hl' c)
    · exact (List.mem_append.1 hc).elim (hr' c) (hr c)

theorem trim_blanks_append (hl : ∀ c ∈ l, isBlank c = true) (cs : List Char) :
    trim (l ++ cs) = trim cs := by
  have hblank := trim_append_blanks hl (r := []) (fun _ hc => absurd hc List.not_mem_nil) cs
  rwa [List.append_nil] at hblank

theorem trim_append_of_blanks (hr : ∀ c ∈ r, isBlank c = true) (cs : List Char) :
    trim (cs ++ r) = trim cs :=
  trim_append_blanks (l := []) (fun _ hc => absurd hc List.not_mem_nil) hr cs

/-- Where two texts that are not blank are joined by a character, the blanks next to it stay. -/
theorem exists_trim_append_cons {a b : List Char} (c : Char) (ha : trim a ≠ [])
    (hb : trim b ≠ []) :
    ∃ a' b', trim (a ++ c :: b) = a' ++ c :: b' ∧ trim a' = trim a ∧ trim b' = trim b := by
  obtain ⟨la, ra, hla, hl, hra⟩ := exists_eq_append_trim a
  obtain ⟨lb, rb, hlb, hlb', hr⟩ := exists_eq_append_trim b
  -- the blanks beside the character stay, as they are within the text
  have hmiddle : IsTrimmed (trim a ++ (ra ++ c :: (lb ++ trim b))) := by
    constructor
    · rw [List.head?_append_of_ne_nil _ ha]
      exact (isTrimmed_trim a).1
    · rw [← List.append_assoc, ← List.cons_append, ← List.append_assoc,
        List.getLast?_append_of_ne_nil _ hb]
      exact (isTrimmed_trim b).2
  have htext : a ++ c :: b = la ++ (trim a ++ (ra ++ c :: (lb ++ trim b))) ++ rb := by
    nth_rewrite 1 [hla]
    nth_rewrite 1 [hlb]
    simp only [List.append_assoc, List.cons_append]
  refine ⟨trim a ++ ra, lb ++ trim b, ?_, ?_, ?_⟩
  · rw [htext, List.append_assoc (trim a)]
    exact trim_append hmiddle (List.append_ne_nil_of_left_ne_nil ha _) hl hr
  · rw [trim_append_of_blanks hra, trim_trim]
  · rw [trim_blanks_append hlb', trim_trim]

/-- A character in front of a text that starts with no blank stays where it is. -/
theorem trim_cons {c : Char} (hc : isBlank c = false) (h : ∀ d ∈ cs.head?, isBlank d = false) :
    trim (c :: cs) = c :: trim cs := by
  have hhead : ∀ d ∈ (c :: cs).head?, isBlank d = false := by
    intro d hd
    obtain rfl := Option.some.inj hd
    exact hc
  rw [trim, trim, trimStart_eq_self hhead, trimStart_eq_self h, trimEnd, trimEnd, List.reverse_cons,
    List.dropWhile_append]
  split
  · rename_i hempty
    rw [List.isEmpty_iff.1 hempty, List.dropWhile_cons_of_neg (by simp [hc])]
    rfl
  · rw [List.reverse_append, List.reverse_singleton, List.singleton_append]

end CancellationPolicy.Text
