import CancellationPolicy.Proofs.Pattern.Boundary
import Mathlib.Data.List.Induction

/-!
# What is matched first

A row of characters has one match at a place, if the text behind the place starts with it
(`Pattern.ends_text`).  Of alternatives the first one that matches at a place decides
(`Pattern.matchAt?_oneOf`).
-/

namespace CancellationPolicy

namespace Progress

/-- The progress behind a text. -/
def pass (s : Progress) (w : List Char) : Progress :=
  { s with
    place :=
      { before := w.getLast?.or s.place.before
        offset := s.place.offset + (String.ofList w).utf8ByteSize
        rest := s.place.rest.drop w.length } }

theorem rest_pass (s : Progress) (w : List Char) :
    (s.pass w).place.rest = s.place.rest.drop w.length := rfl

theorem pass_nil (s : Progress) : s.pass [] = s := rfl

theorem pass_pass (s : Progress) (v w : List Char) : (s.pass v).pass w = s.pass (v ++ w) := by
  simp only [pass, List.getLast?_append, Option.or_assoc, String.ofList_append,
    String.utf8ByteSize_append, Nat.add_assoc, List.drop_drop, List.length_append]

/-- Only entries behind the first are dropped. -/
theorem head?_distinct (ss : List Progress) : (distinct ss).head? = ss.head? := by
  match ss with
  | [] => rfl
  | [_] => rfl
  | s :: t :: ss =>
    rw [distinct, distinctFrom, if_neg (by simp)]
    · rfl
    · rintro ⟨⟩
    · rintro _ ⟨⟩

end Progress

namespace Pattern

open Progress

variable {p : Pattern} {ps : List Pattern} {place : Place} {s : Progress} {w : List Char}

/-! ### Rows of characters -/

/-- Where two patterns have no more than one match each, so has the row of them. -/
theorem ends_cat_of_single {q : Pattern} {t u : Progress} {P Q : Prop} [Decidable P] [Decidable Q]
    (hp : p.ends s = if P then [t] else []) (hq : q.ends t = if Q then [u] else []) :
    (cat p q).ends s = if P ∧ Q then [u] else [] := by
  rw [ends, hp]
  by_cases hP : P
  · rw [if_pos hP, List.flatMap_singleton, hq]
    by_cases hQ : Q
    · rw [if_pos hQ, if_pos ⟨hP, hQ⟩]
      rfl
    · rw [if_neg hQ, if_neg fun h => hQ h.2]
      rfl
  · rw [if_neg hP, if_neg fun h => hP h.1]
    rfl

/-- One character ends behind it if it is there, and nowhere otherwise. -/
theorem ends_char (c : Char) (s : Progress) :
    (char c).ends s = if [c] <+: s.place.rest then [s.pass [c]] else [] := by
  obtain ⟨⟨before, offset, rest⟩, captures⟩ := s
  have hsingle (d : Char) : (CharSet.single c.toNat).holds d = true ↔ d = c := by
    rw [CharSet.holds, CharSet.contains, CharSet.single, CharSet.range, if_pos (Nat.le_refl _),
      ← Char.toNat_inj]
    simp only [CharSet.inside]
    split
    · simp only [Bool.false_eq_true, false_iff]
      omega
    · split <;> simp <;> omega
  cases rest with
  | nil => simp [ends, char]
  | cons d ds =>
    by_cases hd : d = c
    · subst hd
      simp [ends, char, (hsingle d).2 rfl, Progress.pass, Place.step]
    · have hholds : ¬(CharSet.single c.toNat).holds d = true := fun h => hd ((hsingle d).1 h)
      have hprefix : ¬[c] <+: d :: ds := by simp [Ne.symm hd]
      simp [ends, char, hholds, hprefix]

theorem row_concat (hps : ps ≠ []) (p : Pattern) : row (ps ++ [p]) = cat (row ps) p := by
  obtain ⟨q, qs, rfl⟩ := List.exists_cons_of_ne_nil hps
  rw [row, List.cons_append, row, List.foldl_append, List.foldl_cons, List.foldl_nil]

/-- A row of characters only matches itself. -/
theorem ends_text (w : List Char) (s : Progress) :
    (text w).ends s = if w <+: s.place.rest then [s.pass w] else [] := by
  induction w using List.reverseRecOn with
  | nil => simp [text, row, ends, pass_nil]
  | append_singleton w c ih =>
    cases w with
    | nil => exact ends_char c s
    | cons d w =>
      have hrow : text (d :: w ++ [c]) = cat (text (d :: w)) (char c) := by
        have hne : (d :: w).map char ≠ [] := List.cons_ne_nil _ _
        rw [text, List.map_append, List.map_singleton, row_concat hne]
        rfl
      -- the last character is behind the others
      have hsplit : d :: w ++ [c] <+: s.place.rest ↔
          d :: w <+: s.place.rest ∧ [c] <+: s.place.rest.drop (d :: w).length := by
        constructor
        · rintro ⟨rest, hrest⟩
          rw [← hrest, List.append_assoc, List.drop_left]
          exact ⟨List.prefix_append _ _, List.prefix_append _ _⟩
        · rintro ⟨⟨rest, hrest⟩, hc⟩
          rw [← hrest, List.drop_left] at hc
          rw [← hrest]
          exact (List.prefix_append_right_inj _).2 hc
      rw [hrow, ends_cat_of_single (ih) (ends_char c (s.pass (d :: w))), rest_pass, pass_pass]
      simp only [hsplit]

/-! ### Alternatives -/

/-- The second alternative is tried where the first one does not match. -/
theorem matchAt?_alt (p q : Pattern) (place : Place) :
    (alt p q).matchAt? place = (p.matchAt? place).or (q.matchAt? place) := by
  rw [matchAt?, ends, head?_distinct, List.head?_append]
  rfl

/-- Of several alternatives, the first that matches decides. -/
theorem matchAt?_oneOf (ps : List Pattern) (place : Place) :
    (oneOf ps).matchAt? place = ps.findSome? (·.matchAt? place) := by
  -- the alternatives are nested to the left, so the induction is for any first one
  have hfoldl (p : Pattern) (ps : List Pattern) : (ps.foldl alt p).matchAt? place =
      (p.matchAt? place).or (ps.findSome? (·.matchAt? place)) := by
    induction ps generalizing p with
    | nil => simp
    | cons q ps ih =>
      rw [List.foldl_cons, ih, matchAt?_alt, Option.or_assoc, List.findSome?_cons]
      cases q.matchAt? place <;> rfl
  cases ps with
  | nil =>
    rw [oneOf, matchAt?, ends]
    cases place.rest <;> rfl
  | cons p ps =>
    rw [oneOf, hfoldl, List.findSome?_cons]
    cases p.matchAt? place <;> rfl

end Pattern

end CancellationPolicy
