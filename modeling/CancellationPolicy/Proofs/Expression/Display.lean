import CancellationPolicy.Proofs.Expression.Alternatives

/-!
# Displayed expressions

An expression that is displayed and read again has the terms that it had (`parse_display`).

Joining by ` or ` could make new separators at the edges of a term: one that ends in a blank and
`or` would lose this word to the blank that follows.  But a separator is cut out where it first
stands, so of the parts of a text only the last can end so.  `IsRow` says this of a row of parts,
and that each is neither empty nor has a blank at its ends nor holds a separator.  The parts of a
text are such a row (`Splits.isRow`), and a row is what its parts, joined, are split into
(`IsRow.splits`).
-/

namespace CancellationPolicy.Expression

open Text (IsTrimmed trim)

variable {cs rest s t u v : List Char} {ts : List (List Char)}

/-! ### The first part of a text -/

/-- Whether a separator stands somewhere in a text. -/
def HoldsSeparator (cs : List Char) : Prop := ∃ s, IsSeparator s ∧ s <:+: cs

/-- The first part is the whole text, or a separator and the other parts follow it. -/
theorem Splits.first_cases (h : Splits cs (t :: ts)) :
    (cs = t ∧ ts = []) ∨
      ∃ s rest, IsSeparator s ∧ (∀ c ∈ rest.head?, isBlank c = false) ∧ cs = t ++ (s ++ rest) ∧
        Splits rest ts := by
  generalize hts : t :: ts = us at h
  induction h generalizing t ts with
  | done =>
    obtain ⟨rfl, rfl⟩ := List.cons.inj hts
    exact .inl ⟨rfl, rfl⟩
  | @cut s rest us hs hhead hrest _ =>
    obtain ⟨rfl, rfl⟩ := List.cons.inj hts
    exact .inr ⟨s, rest, hs, hhead, rfl, hrest⟩
  | @keep c cs t' us _ _ ih =>
    obtain ⟨rfl, rfl⟩ := List.cons.inj hts
    rcases ih rfl with ⟨rfl, rfl⟩ | ⟨s, rest, hs, hhead, rfl, hrest⟩
    · exact .inl ⟨rfl, rfl⟩
    · exact .inr ⟨s, rest, hs, hhead, rfl, hrest⟩

/-- No separator stands at any place of the first part, also none that goes on behind it. -/
theorem Splits.not_prefix_first (h : Splits cs ((u ++ v) :: ts)) (hv : v ≠ []) :
    ∃ w, cs = u ++ w ∧ ∀ s, IsSeparator s → ¬s <+: w := by
  induction u generalizing cs with
  | nil =>
    obtain ⟨c, v, rfl⟩ := List.exists_cons_of_ne_nil hv
    cases h with
    | keep hnone _ => exact ⟨_, rfl, hnone⟩
  | cons c u ih =>
    cases h with
    | keep _ hrest =>
      obtain ⟨w, rfl, hnone⟩ := ih hrest
      exact ⟨w, rfl, hnone⟩

/-- The first part has no separator within it. -/
theorem Splits.not_holdsSeparator (h : Splits cs (t :: ts)) : ¬HoldsSeparator t := by
  rintro ⟨s, hs, u, v, rfl⟩
  rw [List.append_assoc] at h
  obtain ⟨w, hw, hnone⟩ := h.not_prefix_first (List.append_ne_nil_of_left_ne_nil hs.ne_nil v)
  -- the text goes on with the separator, whatever follows the part
  have hpre : s <+: w := by
    rcases h.first_cases with ⟨hcs, -⟩ | ⟨s', rest, -, -, hcs, -⟩
    · have hrest : w = s ++ v := List.append_cancel_left (hw.symm.trans hcs)
      exact ⟨v, hrest.symm⟩
    · rw [hw, List.append_assoc, List.append_cancel_left_eq] at hcs
      exact ⟨v ++ (s' ++ rest), by rw [hcs, List.append_assoc]⟩
  exact hnone s hs hpre

/-- A blank or a blank and `or` at the end of a part would be a separator together with the one that
follows. -/
theorem Splits.not_extends_separator (h : Splits cs ((u ++ v) :: ts)) (hv : v ≠ [])
    (hcs : cs = u ++ v ++ (s ++ rest)) {s' : List Char} (hs' : IsSeparator s')
    (hpre : s' <+: v ++ s) : False := by
  obtain ⟨w, hw, hnone⟩ := h.not_prefix_first hv
  have hrest : w = v ++ s ++ rest := by
    rw [hw, List.append_assoc] at hcs
    rw [List.append_assoc]
    exact List.append_cancel_left hcs
  rw [hrest] at hnone
  exact hnone s' hs' (hpre.trans (List.prefix_append _ _))

/-! ### Rows of parts -/

/-- What every part of a text is that is not blank. -/
structure IsPart (t : List Char) : Prop where
  ne_nil : t ≠ []
  trimmed : IsTrimmed t
  not_holdsSeparator : ¬HoldsSeparator t

/-- What the parts of a text are that is not blank: only the last may end in a blank and `or`. -/
inductive IsRow : List (List Char) → Prop where
  /-- There is one part. -/
  | last {t : List Char} (ht : IsPart t) : IsRow [t]
  /-- Other parts follow. -/
  | cons {t : List Char} {ts : List (List Char)} (ht : IsPart t) (hend : ¬EndsInOr t)
      (hrest : IsRow ts) : IsRow (t :: ts)

/-- A part that a separator follows ends in no blank. -/
theorem Splits.getLast?_first (h : Splits cs (t :: ts)) (hs : IsSeparator s)
    (hcs : cs = t ++ (s ++ rest)) : ∀ c ∈ t.getLast?, isBlank c = false := by
  intro c hc
  obtain ⟨u, rfl⟩ := List.getLast?_eq_some_iff.1 hc
  by_contra hblank
  rw [Bool.not_eq_false] at hblank
  have hwide : IsSeparator ([c] ++ s ++ []) :=
    hs.widen (List.forall_mem_singleton.2 hblank) fun d hd => absurd hd List.not_mem_nil
  rw [List.append_nil] at hwide
  exact h.not_extends_separator (List.cons_ne_nil c []) hcs hwide (List.prefix_refl _)

/-- In front of a separator, the first part does not end with the word. -/
theorem Splits.not_endsInOr_first (h : Splits cs (t :: ts)) (hs : IsSeparator s)
    (hcs : cs = t ++ (s ++ rest)) : ¬EndsInOr t := by
  rintro ⟨u, b, w, rfl, hb, hw⟩
  obtain ⟨d, s, rfl⟩ := List.exists_cons_of_ne_nil hs.ne_nil
  have hd : isBlank d = true := hs.isBlank_head? d rfl
  -- the first blank of the separator completes the word
  have hearly : IsSeparator ([b] ++ w ++ [d]) :=
    ⟨[b], w, [d], rfl, ⟨List.cons_ne_nil _ _, List.forall_mem_singleton.2 hb⟩, hw,
      List.cons_ne_nil _ _, List.forall_mem_singleton.2 hd⟩
  refine h.not_extends_separator (List.cons_ne_nil b w) hcs hearly ⟨s, ?_⟩
  simp only [List.cons_append, List.nil_append, List.append_assoc]

theorem Splits.isRow (h : Splits cs ts) (htrim : IsTrimmed cs) (hne : cs ≠ []) : IsRow ts := by
  induction ts generalizing cs with
  | nil => exact absurd rfl h.ne_nil
  | cons t ts ih =>
    have hnone := h.not_holdsSeparator
    rcases h.first_cases with ⟨rfl, rfl⟩ | ⟨s, rest, hs, hhead, hcs, hrest⟩
    · exact .last ⟨hne, htrim, hnone⟩
    · -- a separator has blanks at both ends, the text has not, so neither side is empty
      have ht : t ≠ [] := by
        rintro rfl
        obtain ⟨c, s, rfl⟩ := List.exists_cons_of_ne_nil hs.ne_nil
        have hblank := hs.isBlank_head? c rfl
        rw [htrim.1 c (by rw [hcs]; rfl)] at hblank
        cases hblank
      have hrest_ne : rest ≠ [] := by
        rintro rfl
        have hlast := List.getLast?_eq_some_getLast hs.ne_nil
        have hblank := hs.isBlank_getLast? _ hlast
        rw [List.append_nil] at hcs
        have hmem : s.getLast hs.ne_nil ∈ cs.getLast? := by
          rw [hcs, List.getLast?_append_of_ne_nil _ hs.ne_nil, hlast]
          rfl
        rw [htrim.2 _ hmem] at hblank
        cases hblank
      have htrim_rest : IsTrimmed rest := by
        refine ⟨hhead, fun c hc => htrim.2 c ?_⟩
        rw [hcs, ← List.append_assoc, List.getLast?_append_of_ne_nil _ hrest_ne]
        exact hc
      have htrim_first : IsTrimmed t := by
        refine ⟨fun c hc => htrim.1 c ?_, h.getLast?_first hs hcs⟩
        rw [hcs, List.head?_append_of_ne_nil _ ht]
        exact hc
      exact .cons ⟨ht, htrim_first, hnone⟩ (h.not_endsInOr_first hs hcs)
        (ih hrest htrim_rest hrest_ne)

theorem IsRow.isPart (h : IsRow ts) : ∀ t ∈ ts, IsPart t := by
  induction h with
  | last ht => exact List.forall_mem_singleton.2 ht
  | cons ht _ _ ih => exact List.forall_mem_cons.2 ⟨ht, ih⟩

/-! ### Joining a row -/

/-- The separator in its plainest form. -/
def plainSeparator : List Char := [' ', 'o', 'r', ' ']

theorem isSeparator_plain : IsSeparator plainSeparator := by
  have hgap : IsGap [' '] := ⟨List.cons_ne_nil _ _, List.forall_mem_singleton.2 (by decide)⟩
  exact ⟨[' '], ['o', 'r'], [' '], rfl, hgap, by decide, hgap⟩

/-- A text without separators is its only part. -/
theorem splits_singleton (h : ¬HoldsSeparator t) : Splits t [t] := by
  induction t with
  | nil => exact .done
  | cons c t ih =>
    refine .keep (fun s hs hpre => h ⟨s, hs, hpre.isInfix⟩) (ih ?_)
    rintro ⟨s, hs, hinfix⟩
    exact h ⟨s, hs, hinfix.trans (List.suffix_cons c t).isInfix⟩

theorem IsRow.ne_nil (h : IsRow ts) : ts ≠ [] := by
  cases h with
  | last => exact List.cons_ne_nil _ _
  | cons => exact List.cons_ne_nil _ _

/-- A joined row starts and ends with no blank, as its first and last part do. -/
theorem IsRow.isTrimmed_join (h : IsRow ts) (sep : List Char) :
    IsTrimmed (sep.intercalate ts) ∧ sep.intercalate ts ≠ [] := by
  induction h with
  | last ht =>
    rw [List.intercalate_singleton]
    exact ⟨ht.trimmed, ht.ne_nil⟩
  | @cons t ts ht _ hrest ih =>
    obtain ⟨⟨-, hlast⟩, hne⟩ := ih
    rw [List.intercalate_cons_of_ne_nil hrest.ne_nil, List.append_assoc]
    refine ⟨⟨?_, ?_⟩, List.append_ne_nil_of_left_ne_nil ht.ne_nil _⟩
    · rw [List.head?_append_of_ne_nil _ ht.ne_nil]
      exact ht.trimmed.1
    · rw [← List.append_assoc, List.getLast?_append_of_ne_nil _ hne]
      exact hlast

/-- A row is what its parts are split into when they are joined. -/
theorem IsRow.splits (h : IsRow ts) : Splits (plainSeparator.intercalate ts) ts := by
  induction h with
  | @last t ht =>
    rw [List.intercalate_singleton]
    exact splits_singleton ht.not_holdsSeparator
  | @cons t ts ht hend hrest ih =>
    have hhead := (hrest.isTrimmed_join plainSeparator).1.1
    rw [List.intercalate_cons_of_ne_nil hrest.ne_nil, List.append_assoc]
    exact (splits_singleton ht.not_holdsSeparator).append ht.trimmed.2 hend isSeparator_plain
      hhead ih

/-! ### Displaying -/

theorem toList_display (e : Expression) :
    e.display.toList = plainSeparator.intercalate (e.terms.map String.toList) := by
  rw [display, String.toList_intercalate]
  rfl

/-- What is left of a part without the blanks at its ends is the part. -/
theorem toList_terms_parse {template : String} (h : IsRow (parts template.toList)) :
    (parse template).terms.map String.toList = parts template.toList := by
  rw [terms_parse, List.map_map]
  conv_rhs => rw [← List.map_id (parts template.toList)]
  refine List.map_congr_left fun t ht => ?_
  obtain ⟨hhead, hlast⟩ := (h.isPart t ht).trimmed
  show (String.ofList (trim t)).toList = t
  rw [String.toList_ofList, Text.trim_eq_self hhead hlast]

/-- The parts of a template that is not blank stand in a row. -/
theorem isRow_parts (h : ∃ c ∈ cs, isBlank c = false) : IsRow (parts cs) :=
  (splits_parts cs).isRow (Text.isTrimmed_trim cs) (trim_ne_nil h)

/-- A blank template has one term, which is empty. -/
theorem terms_parse_of_blank {template : String} (h : ∀ c ∈ template.toList, isBlank c = true) :
    (parse template).terms = [""] := by
  rw [terms_parse, parts, Text.trim_eq_nil_iff.2 h]
  rfl

/-- The parts of a text that is not blank are found again in what is displayed. -/
theorem parts_display {template : String} (h : IsRow (parts template.toList)) :
    parts (parse template).display.toList = parts template.toList := by
  obtain ⟨⟨hhead, hlast⟩, -⟩ := h.isTrimmed_join plainSeparator
  rw [toList_display, toList_terms_parse h, parts, Text.trim_eq_self hhead hlast]
  exact h.splits.splitTerms_eq (Nat.le_refl _)

/-- An expression is read from what it is displayed as.  Its terms have no blanks at their ends and
hold no separators, and none is empty unless the template is blank. -/
theorem parse_display (template : String) :
    (parse (parse template).display).terms = (parse template).terms ∧
      ∀ term ∈ (parse template).terms,
        IsTrimmed term.toList ∧ ¬HoldsSeparator term.toList ∧
          (term = "" → ∀ c ∈ template.toList, isBlank c = true) := by
  -- a blank template is displayed as nothing, any other as the row of its parts
  by_cases hblank : ∀ c ∈ template.toList, isBlank c = true
  · have hterms := terms_parse_of_blank hblank
    refine ⟨?_, fun term hterm => ?_⟩
    · have hempty : (parse template).display = "" := by
        rw [display, hterms]
        rfl
      rw [hempty, hterms]
      exact terms_parse_of_blank fun c hc => absurd hc List.not_mem_nil
    · rw [hterms] at hterm
      obtain rfl := List.mem_singleton.1 hterm
      refine ⟨by decide, ?_, fun _ => hblank⟩
      rintro ⟨s, hs, hinfix⟩
      exact hs.ne_nil (List.infix_nil.1 hinfix)
  · have hrow : IsRow (parts template.toList) := isRow_parts (by simpa using hblank)
    refine ⟨?_, fun term hterm => ?_⟩
    · rw [terms_parse, parts_display hrow, terms_parse]
    · have hmem : term.toList ∈ parts template.toList := by
        rw [← toList_terms_parse hrow]
        exact List.mem_map_of_mem hterm
      obtain ⟨hne, htrimmed, hnone⟩ := hrow.isPart _ hmem
      refine ⟨htrimmed, hnone, fun hempty => ?_⟩
      rw [hempty] at hne
      exact absurd rfl hne

/-- Terms that are the word, or end in it. -/
example :
    (parse " or OR\u00a0or  Or $fee or ").terms = ["or", "or", "$fee or"] ∧
      (parse "or or or or $fee or").terms = ["or", "or", "$fee or"] := by
  decide +kernel

end CancellationPolicy.Expression
