import CancellationPolicy.Expression
import CancellationPolicy.Proofs.Decimal.Reading

/-!
# Values of terms

What a term is worth by its form, whatever the parts of a match are: a term without references has
one value (`termValue?_of_nil`); a reference is worth the number or the text that the part stands
for, if that is not marked as a call or by blanks (`literalValue?_of_unmarked`); and a call around
references is worth a number or nothing (`eq_number_of_call?`).  A term is worth a text only if no
number can be read from it, and never the empty text (`isPlain_of_termValue?`), so an expression is
worth what the first of its terms is that has a value (`resolve?_eq_findSome?`).
-/

namespace CancellationPolicy

/-- Whether a text is not empty, has no blank at its ends and is no amount. -/
def Text.IsPlain (s : String) : Prop :=
  s ≠ "" ∧ IsTrimmed s.toList ∧ Amount.parse? s = none

namespace Expression

variable {captures : Captures} {term name s : String} {cs w : List Char} {v : Value}

/-! ### Pieces -/

/-- A row has values if its first piece has one and the pieces behind it have. -/
theorem mapM_value?_cons {p : Piece} {ps : List Piece} {ws : List (List Char)} :
    (p :: ps).mapM (Piece.value? captures) = some ws ↔
      ∃ w us, p.value? captures = some w ∧ ps.mapM (Piece.value? captures) = some us ∧
        w :: us = ws := by
  simp only [List.mapM_cons, Option.bind_eq_bind, Option.bind_eq_some_iff, Option.pure_def,
    Option.some.injEq, exists_and_left]

/-- Without any parts of a match, a row of pieces has a value only if it has no references. -/
theorem mapM_value?_of_nil {ps : List Piece} {ws : List (List Char)}
    (h : ps.mapM (Piece.value? []) = some ws) : ps.mapM (Piece.value? captures) = some ws := by
  induction ps generalizing ws with
  | nil => exact h
  | cons p ps ih =>
    obtain ⟨w, us, hw, hus, rfl⟩ := mapM_value?_cons.1 h
    cases p with
    | char c => exact mapM_value?_cons.2 ⟨w, us, hw, ih hus, rfl⟩
    | reference name => cases hw

/-- A term that has a value without captures has it with any. -/
theorem termValue?_of_nil (h : termValue? [] term = some v) :
    termValue? captures term = some v := by
  unfold termValue? substitute? at h ⊢
  cases hws : (pieces term).mapM (Piece.value? []) with
  | none =>
    rw [hws] at h
    cases h
  | some ws =>
    rw [hws] at h
    rw [mapM_value?_of_nil hws]
    exact h

/-- What a piece stands for is not empty. -/
theorem ne_nil_of_value? {p : Piece} {w : List Char} (h : p.value? captures = some w) : w ≠ [] := by
  cases p with
  | char c =>
    rw [← Option.some.inj h]
    exact List.cons_ne_nil _ _
  | reference name =>
    rw [Piece.value?] at h
    split at h
    · rename_i s hs
      split at h
      · cases h
      · rename_i hne
        rw [← Option.some.inj h]
        simpa using hne
    · cases h

/-- Every character of a row comes from a piece of it. -/
theorem exists_piece_of_mem {ps : List Piece} {ws : List (List Char)}
    (h : ps.mapM (Piece.value? captures) = some ws) {c : Char} (hc : c ∈ ws.flatten) :
    ∃ p ∈ ps, ∃ w, p.value? captures = some w ∧ c ∈ w := by
  induction ps generalizing ws with
  | nil =>
    obtain rfl : ws = [] := (Option.some.inj h).symm
    cases hc
  | cons p ps ih =>
    obtain ⟨w, us, hw, hus, rfl⟩ := mapM_value?_cons.1 h
    rcases List.mem_append.1 (List.flatten_cons ▸ hc) with hc | hc
    · exact ⟨p, List.mem_cons_self, w, hw, hc⟩
    · obtain ⟨q, hq, hrest⟩ := ih hus hc
      exact ⟨q, List.mem_cons_of_mem _ hq, hrest⟩

/-- A row of pieces does not stand for the empty text. -/
theorem flatten_ne_nil_of_mapM {ps : List Piece} {ws : List (List Char)}
    (h : ps.mapM (Piece.value? captures) = some ws) (hne : ps ≠ []) : ws.flatten ≠ [] := by
  obtain ⟨p, ps, rfl⟩ := List.exists_cons_of_ne_nil hne
  obtain ⟨w, us, hw, -, rfl⟩ := mapM_value?_cons.1 h
  rw [List.flatten_cons]
  exact List.append_ne_nil_of_left_ne_nil (ne_nil_of_value? hw) _

/-! ### References -/

/-- The name that a term refers to, if it is one reference and nothing else. -/
def reference? (term : String) : Option String :=
  match pieces term with
  | [.reference name] => some name
  | _ => none

/-- A reference is worth what the part is as a term. -/
theorem termValue?_of_reference (h : reference? term = some name) :
    termValue? captures term =
      ((Piece.reference name).value? captures).bind literalValue? := by
  unfold reference? at h
  split at h
  · rename_i n hpieces
    obtain rfl := Option.some.inj h
    unfold termValue? substitute?
    rw [hpieces]
    cases hvalue : (Piece.reference n).value? captures <;> simp [hvalue]
  · cases h

/-- The code points that a text must not hold to be worth what it is: blanks, and the parenthesis of
a call. -/
def marks : List Nat := '('.toNat :: blanks.points

theorem ceilOperand?_eq_none (h : ∀ c ∈ cs, c.toNat ∉ marks) : ceilOperand? cs = none := by
  unfold ceilOperand?
  split
  · exact absurd List.mem_cons_self (h '(' (by simp))
  · rfl

theorem isBlank_of_not_mem_marks {c : Char} (h : c.toNat ∉ marks) : isBlank c = false := by
  cases hblank : isBlank c with
  | false => rfl
  | true =>
    have hmem := CharSet.mem_points_of_contains (by decide) hblank
    exact absurd (List.mem_cons_of_mem _ hmem) h

/-- A text without marks is worth a number if it is one, and itself otherwise. -/
theorem literalValue?_of_unmarked (hne : cs ≠ []) (h : ∀ c ∈ cs, c.toNat ∉ marks) :
    literalValue? cs =
      some (((Amount.parse? (String.ofList cs)).map Value.number).getD
        (.text (String.ofList cs))) := by
  have htrim : Text.trim cs = cs :=
    Text.trim_eq_self
      (fun c hc => isBlank_of_not_mem_marks (h c (List.mem_of_mem_head? hc)))
      fun c hc => isBlank_of_not_mem_marks (h c (List.mem_of_mem_getLast? hc))
  have hempty : cs.isEmpty = false := by simpa using hne
  simp only [literalValue?, htrim, ceilOperand?_eq_none h, hempty]
  cases Amount.parse? (String.ofList cs) <;> rfl

/-! ### Calls -/

/-- The pieces inside of a call that is the whole term. -/
def call? (term : String) : Option (List Piece) :=
  match pieces term with
  | .char 'c' :: .char 'e' :: .char 'i' :: .char 'l' :: .char '(' :: rest =>
    if rest.getLast? = some (.char ')') ∧ rest.dropLast ≠ [] then some rest.dropLast else none
  | _ => none

/-- Whether a text is the word `ceil` in any case. -/
def IsCeil (w : List Char) : Prop := w.map Char.toLower = ['c', 'e', 'i', 'l']

instance (w : List Char) : Decidable (IsCeil w) := inferInstanceAs (Decidable (_ = _))

/-- Blanks have no case. -/
theorem toLower_of_isBlank {c : Char} (h : isBlank c = true) : c.toLower = c := by
  have hpoints : ∀ n ∈ blanks.points, (Char.ofNat n).toLower = Char.ofNat n := by decide
  have hmem : c.toNat ∈ blanks.points := CharSet.mem_points_of_contains (by decide) h
  have hself := hpoints c.toNat hmem
  rwa [Char.ofNat_toNat] at hself

theorem not_isBlank_of_toLower_eq {c l : Char} (h : c.toLower = l) (hl : isBlank l = false) :
    isBlank c = false := by
  by_contra hblank
  rw [Bool.not_eq_false] at hblank
  obtain rfl := (toLower_of_isBlank hblank).symm.trans h
  rw [hl] at hblank
  cases hblank

theorem IsCeil.exists_letters (hw : IsCeil w) :
    ∃ c e i l, w = [c, e, i, l] ∧ (c.toLower = 'c' ∧ e.toLower = 'e' ∧ i.toLower = 'i' ∧
      l.toLower = 'l') := by
  obtain ⟨c, w, rfl, hc, hw⟩ := List.map_eq_cons_iff.1 hw
  obtain ⟨e, w, rfl, he, hw⟩ := List.map_eq_cons_iff.1 hw
  obtain ⟨i, w, rfl, hi, hw⟩ := List.map_eq_cons_iff.1 hw
  obtain ⟨l, w, rfl, hl, hnil⟩ := List.map_eq_cons_iff.1 hw
  obtain rfl := List.map_eq_nil_iff.1 hnil
  exact ⟨c, e, i, l, rfl, hc, he, hi, hl⟩

/-- A call has an operand if there is something between its parentheses that does not close them. -/
theorem ceilOperand?_call (hw : IsCeil w) (cs : List Char) :
    ceilOperand? (w ++ '(' :: (cs ++ [')'])) =
      if cs = [] ∨ ')' ∈ cs then none else some (Text.trim cs) := by
  obtain ⟨c, e, i, l, rfl, hc, he, hi, hl⟩ := hw.exists_letters
  have hword : (sameLetter c 'c' && sameLetter e 'e' && sameLetter i 'i' && sameLetter l 'l') =
      true := by
    simp only [sameLetter, Bool.and_eq_true, beq_iff_eq]
    exact ⟨⟨⟨hc, he⟩, hi⟩, hl⟩
  show ceilOperand? (c :: e :: i :: l :: '(' :: (cs ++ [')'])) = _
  rw [ceilOperand?, if_pos hword, List.reverse_append, List.reverse_singleton,
    List.singleton_append]
  simp only [List.reverse_reverse, List.isEmpty_reverse, List.contains_reverse,
    Bool.or_eq_true, List.isEmpty_iff, List.contains_iff_mem]

theorem trim_call (hw : IsCeil w) (cs : List Char) :
    Text.trim (w ++ '(' :: (cs ++ [')'])) = w ++ '(' :: (cs ++ [')']) := by
  obtain ⟨c, e, i, l, rfl, hc, -⟩ := hw.exists_letters
  refine Text.trim_eq_self (fun d hd => ?_) fun d hd => ?_
  · obtain rfl := Option.some.inj hd
    exact not_isBlank_of_toLower_eq hc (by decide)
  · rw [← List.cons_append, ← List.append_assoc, List.getLast?_concat] at hd
    obtain rfl := Option.some.inj hd
    decide

/-- A call whose operand has no closing parenthesis is worth the ceiling of it, or nothing. -/
theorem literalValue?_call (hw : IsCeil w) (hne : cs ≠ []) (h : ')' ∉ cs) :
    literalValue? (w ++ '(' :: (cs ++ [')'])) = (ceilValue? (Text.trim cs)).map .number := by
  rw [literalValue?, trim_call hw, ceilOperand?_call hw, if_neg (by simp [hne, h])]

/-- The pieces of a call are its name, what is between the parentheses, and these. -/
theorem pieces_of_call? {inner : List Piece} (h : call? term = some inner) :
    pieces term = [.char 'c', .char 'e', .char 'i', .char 'l', .char '('] ++ inner ++ [.char ')'] ∧
      inner ≠ [] := by
  unfold call? at h
  split at h
  · rename_i rest hpieces
    split at h
    · rename_i hrest
      obtain ⟨hlast, hne⟩ := hrest
      obtain ⟨front, rfl⟩ := List.getLast?_eq_some_iff.1 hlast
      rw [List.dropLast_concat] at hne h
      rw [hpieces, ← Option.some.inj h]
      exact ⟨rfl, hne⟩
    · cases h
  · cases h

/-- A call whose operand has no closing parenthesis is worth a number, if anything. -/
theorem eq_number_of_call? {inner : List Piece} (hcall : call? term = some inner)
    (hinner : ∀ p ∈ inner, ∀ w, p.value? captures = some w → ')' ∉ w)
    (hv : termValue? captures term = some v) : ∃ n, v = .number n := by
  obtain ⟨hpieces, hne⟩ := pieces_of_call? hcall
  cases hparts : inner.mapM (Piece.value? captures) with
  | none =>
    -- a piece without value leaves the whole term without
    have hnone : termValue? captures term = none := by
      simp [termValue?, substitute?, hpieces, List.mapM_cons, List.mapM_append, Piece.value?,
        hparts]
    rw [hnone] at hv
    cases hv
  | some ws =>
    have hclosing : ')' ∉ ws.flatten := by
      intro hmem
      obtain ⟨p, hp, w, hw, hc⟩ := exists_piece_of_mem hparts hmem
      exact hinner p hp w hw hc
    -- with a value for each piece, the term is the call of their texts
    have hvalue : termValue? captures term =
        literalValue? (['c', 'e', 'i', 'l'] ++ '(' :: (ws.flatten ++ [')'])) := by
      simp [termValue?, substitute?, hpieces, List.mapM_cons, List.mapM_append, Piece.value?,
        hparts]
    rw [hvalue, literalValue?_call (by decide) (flatten_ne_nil_of_mapM hparts hne) hclosing] at hv
    obtain ⟨n, -, rfl⟩ := Option.map_eq_some_iff.1 hv
    exact ⟨n, rfl⟩

/-! ### Texts -/

theorem literalValue?_trim (cs : List Char) : literalValue? (Text.trim cs) = literalValue? cs := by
  rw [literalValue?, literalValue?, Text.trim_trim]

/-- A text that is worth a text is worth what is left of it without blanks at its ends. -/
theorem toList_of_literalValue? (h : literalValue? cs = some (.text s)) :
    s.toList = Text.trim cs ∧ s ≠ "" ∧ Amount.parse? s = none := by
  unfold literalValue? at h
  dsimp only at h
  split at h
  · -- a call is worth a number, if anything
    rename_i operand _
    cases hceil : ceilValue? operand <;> simp [hceil] at h
  · split at h
    · cases h
    · rename_i hnone
      split at h
      · cases h
      · rename_i hne
        obtain rfl : String.ofList (Text.trim cs) = s := by simpa using h
        refine ⟨String.toList_ofList, ?_, hnone⟩
        intro hempty
        rw [String.ofList_eq_empty_iff] at hempty
        simp [hempty] at hne

theorem isPlain_of_literalValue? (h : literalValue? cs = some (.text s)) : Text.IsPlain s := by
  obtain ⟨htrim, hne, hnone⟩ := toList_of_literalValue? h
  exact ⟨hne, htrim ▸ Text.isTrimmed_trim cs, hnone⟩

/-- A term whose value is a text has found no number in it. -/
theorem isPlain_of_termValue? (h : termValue? captures term = some (.text s)) :
    Text.IsPlain s := by
  unfold termValue? at h
  split at h
  · exact isPlain_of_literalValue? h
  · cases h

theorem isEmpty_of_termValue? (h : termValue? captures term = some v) : v.isEmpty = false := by
  cases v with
  | number n => rfl
  | text s =>
    obtain ⟨hne, -, -⟩ := isPlain_of_termValue? h
    simpa [Value.isEmpty] using hne

/-! ### Expressions -/

variable {e : Expression}

theorem exists_term_of_resolve? (h : e.resolve? captures = some v) :
    ∃ term ∈ e.terms, termValue? captures term = some v :=
  List.mem_filterMap.1 (List.mem_of_find?_eq_some h)

/-- A text that an expression is worth is trimmed, not empty, and no number. -/
theorem isPlain_of_resolve? (h : e.resolve? captures = some (.text s)) : Text.IsPlain s := by
  obtain ⟨term, -, hterm⟩ := exists_term_of_resolve? h
  exact isPlain_of_termValue? hterm

theorem isEmpty_of_resolve? (h : e.resolve? captures = some v) : v.isEmpty = false := by
  obtain ⟨term, -, hterm⟩ := exists_term_of_resolve? h
  exact isEmpty_of_termValue? hterm

/-- Since no term is worth the empty text, the first value counts. -/
theorem resolve?_eq_findSome? (e : Expression) (captures : Captures) :
    e.resolve? captures = e.terms.findSome? (termValue? captures) := by
  rw [resolve?, ← List.head?_filterMap]
  cases hvalues : e.terms.filterMap (termValue? captures) with
  | nil => rfl
  | cons v vs =>
    have hmem : v ∈ e.terms.filterMap (termValue? captures) := by
      rw [hvalues]
      exact List.mem_cons_self
    obtain ⟨term, -, hv⟩ := List.mem_filterMap.1 hmem
    rw [List.find?_cons_of_pos (by simp [isEmpty_of_termValue? hv]), List.head?_cons]

theorem exists_resolve?_of_mem (hterm : term ∈ e.terms) (hv : termValue? captures term = some v) :
    ∃ w, e.resolve? captures = some w := by
  have hsome : (e.terms.findSome? (termValue? captures)).isSome = true := by
    rw [List.findSome?_isSome_iff]
    exact ⟨term, hterm, by rw [hv, Option.isSome_some]⟩
  rw [resolve?_eq_findSome?]
  exact Option.isSome_iff_exists.1 hsome

end Expression

end CancellationPolicy
