import CancellationPolicy.Proofs.Expression

/-!
# Alternatives of an expression

`Splits cs ts` says what it means to split a text at its separators: from the left, wherever the
word `or` stands between blanks, these are cut out with it, as many as there are.  The program does
that (`splits_splitTerms`), and there is no other way to do it (`Splits.splitTerms_eq`).

Two texts with a separator between them have the parts of both (`Splits.append`), unless the first
ends in a blank and `or`: then this `or` would take the blank of the separator, and leave its word
to the second text.  So `or` joins the alternatives of two expressions, of which those of the first
are tried first (`parse_or`).
-/

namespace CancellationPolicy.Expression

open Text (IsTrimmed trim trimStart)

variable {c : Char} {a b cs s rest : List Char} {ts us : List (List Char)}

/-! ### Separators -/

/-- Whether a text is the word `or` in any case. -/
def IsOr (w : List Char) : Prop := w.map Char.toLower = ['o', 'r']

instance (w : List Char) : Decidable (IsOr w) := inferInstanceAs (Decidable (_ = _))

/-- Whether a text consists of blanks, at least one. -/
def IsGap (cs : List Char) : Prop := cs ≠ [] ∧ ∀ c ∈ cs, isBlank c = true

/-- Whether a text is the word `or` between blanks. -/
def IsSeparator (s : List Char) : Prop :=
  ∃ u w v, s = u ++ w ++ v ∧ IsGap u ∧ IsOr w ∧ IsGap v

/-- Whether a text ends in a blank and the word `or`. -/
def EndsInOr (cs : List Char) : Prop :=
  ∃ front b w, cs = front ++ b :: w ∧ isBlank b = true ∧ IsOr w

/-- What the parts of a text between its separators are. -/
inductive Splits : List Char → List (List Char) → Prop where
  /-- The text is at its end. -/
  | done : Splits [] [[]]
  /-- A separator stands here and takes all blanks behind its word. -/
  | cut {s rest : List Char} {ts : List (List Char)} (hs : IsSeparator s)
      (hhead : ∀ c ∈ rest.head?, isBlank c = false) (hrest : Splits rest ts) :
      Splits (s ++ rest) ([] :: ts)
  /-- No separator stands here: the character belongs to the first part. -/
  | keep {c : Char} {cs t : List Char} {ts : List (List Char)}
      (hnone : ∀ s, IsSeparator s → ¬s <+: c :: cs) (hrest : Splits cs (t :: ts)) :
      Splits (c :: cs) ((c :: t) :: ts)

/-- The letters of the word `or` are no blanks. -/
theorem IsOr.exists_letters {w : List Char} (h : IsOr w) :
    ∃ o r, w = [o, r] ∧ (o.toLower = 'o' ∧ r.toLower = 'r') ∧
      isBlank o = false ∧ isBlank r = false := by
  obtain ⟨o, w, rfl, ho, hw⟩ := List.map_eq_cons_iff.1 h
  obtain ⟨r, w, rfl, hr, hnil⟩ := List.map_eq_cons_iff.1 hw
  obtain rfl := List.map_eq_nil_iff.1 hnil
  exact ⟨o, r, rfl, ⟨ho, hr⟩, not_isBlank_of_toLower_eq ho (by decide),
    not_isBlank_of_toLower_eq hr (by decide)⟩

theorem IsSeparator.ne_nil (h : IsSeparator s) : s ≠ [] := by
  obtain ⟨u, w, v, rfl, hu, -, -⟩ := h
  rw [List.append_assoc]
  exact List.append_ne_nil_of_left_ne_nil hu.1 _

theorem IsSeparator.isBlank_head? (h : IsSeparator s) : ∀ c ∈ s.head?, isBlank c = true := by
  obtain ⟨u, w, v, rfl, hu, -, -⟩ := h
  intro c hc
  rw [List.append_assoc, List.head?_append_of_ne_nil _ hu.1] at hc
  exact hu.2 c (List.mem_of_mem_head? hc)

theorem IsSeparator.isBlank_getLast? (h : IsSeparator s) :
    ∀ c ∈ s.getLast?, isBlank c = true := by
  obtain ⟨u, w, v, rfl, -, -, hv⟩ := h
  intro c hc
  rw [List.getLast?_append_of_ne_nil _ hv.1] at hc
  exact hv.2 c (List.mem_of_mem_getLast? hc)

/-- Further blanks on either side belong to the separator. -/
theorem IsSeparator.widen (h : IsSeparator s) {l r : List Char} (hl : ∀ c ∈ l, isBlank c = true)
    (hr : ∀ c ∈ r, isBlank c = true) : IsSeparator (l ++ s ++ r) := by
  obtain ⟨u, w, v, rfl, hu, hw, hv⟩ := h
  refine ⟨l ++ u, w, v ++ r, by simp only [List.append_assoc], ⟨?_, ?_⟩, hw, ?_, ?_⟩
  · exact List.append_ne_nil_of_right_ne_nil _ hu.1
  · intro c hc
    exact (List.mem_append.1 hc).elim (hl c) (hu.2 c)
  · exact List.append_ne_nil_of_left_ne_nil hv.1 _
  · intro c hc
    exact (List.mem_append.1 hc).elim (hv.2 c) (hr c)

/-! ### The separator at a place -/

/-- The program finds the separator that stands at a place, with all blanks behind its word. -/
theorem separator?_eq_some_iff :
    separator? cs = some rest ↔
      ∃ s, IsSeparator s ∧ cs = s ++ rest ∧ ∀ c ∈ rest.head?, isBlank c = false := by
  constructor
  · intro h
    unfold separator? at h
    split at h
    · cases h
    · rename_i d ds
      split at h
      · rename_i hd
        split at h
        · rename_i o r b rest' hword
          split at h
          · rename_i hmatch
            simp only [sameLetter, Bool.and_eq_true, beq_iff_eq] at hmatch
            obtain ⟨⟨ho, hr⟩, hb⟩ := hmatch
            obtain rfl := Option.some.inj h
            have hbefore : ds.takeWhile isBlank ++ trimStart ds = ds :=
              List.takeWhile_append_dropWhile
            have hbehind : rest'.takeWhile isBlank ++ trimStart rest' = rest' :=
              List.takeWhile_append_dropWhile
            -- the separator takes all blanks around the word, so what remains starts with none
            refine ⟨d :: ds.takeWhile isBlank ++ [o, r] ++ b :: rest'.takeWhile isBlank,
              ⟨_, [o, r], _, rfl, ⟨List.cons_ne_nil _ _, ?_⟩, ?_, List.cons_ne_nil _ _, ?_⟩, ?_,
              Text.isBlank_head?_dropWhile⟩
            · intro c hc
              rcases List.mem_cons.1 hc with rfl | hc
              · exact hd
              · exact List.mem_takeWhile_imp hc
            · rw [IsOr, List.map_cons, List.map_cons, ho, hr]
              rfl
            · intro c hc
              rcases List.mem_cons.1 hc with rfl | hc
              · exact hb
              · exact List.mem_takeWhile_imp hc
            · rw [hword] at hbefore
              simp only [List.cons_append, List.append_assoc, List.nil_append, hbehind, hbefore]
          · cases h
        · cases h
      · cases h
  · rintro ⟨s, ⟨u, w, v, rfl, hu, hw, hv⟩, rfl, hhead⟩
    obtain ⟨d, ds, rfl⟩ := List.exists_cons_of_ne_nil hu.1
    obtain ⟨b, bs, rfl⟩ := List.exists_cons_of_ne_nil hv.1
    obtain ⟨o, r, rfl, ⟨ho, hr⟩, hblank, -⟩ := hw.exists_letters
    have hd : isBlank d = true := hu.2 d List.mem_cons_self
    have hb : isBlank b = true := hv.2 b List.mem_cons_self
    -- the blanks end at the word, and those behind it where the rest starts
    have hword : trimStart (ds ++ (o :: r :: b :: (bs ++ rest))) = o :: r :: b :: (bs ++ rest) := by
      rw [Text.trimStart_append fun c hc => hu.2 c (List.mem_cons_of_mem _ hc)]
      refine Text.trimStart_eq_self fun c hc => ?_
      obtain rfl := Option.some.inj hc
      exact hblank
    have hrest : trimStart (bs ++ rest) = rest := by
      rw [Text.trimStart_append fun c hc => hv.2 c (List.mem_cons_of_mem _ hc)]
      exact Text.trimStart_eq_self hhead
    have ho' : sameLetter o 'o' = true := beq_iff_eq.2 ho
    have hr' : sameLetter r 'r' = true := beq_iff_eq.2 hr
    have htext : d :: ds ++ [o, r] ++ b :: bs ++ rest = d :: (ds ++ o :: r :: b :: (bs ++ rest)) := by
      simp only [List.cons_append, List.append_assoc, List.nil_append]
    rw [htext, separator?]
    simp only [hd, if_true, hword, ho', hr', hb, Bool.and_self, hrest]

/-- No separator is found exactly where none starts. -/
theorem separator?_eq_none_iff : separator? cs = none ↔ ∀ s, IsSeparator s → ¬s <+: cs := by
  constructor
  · rintro h s hs ⟨rest, rfl⟩
    -- the blanks that the separator leaves behind it belong to it as well
    have hblanks : ∀ c ∈ rest.takeWhile isBlank, isBlank c = true :=
      fun c hc => List.mem_takeWhile_imp hc
    have hwiden := hs.widen (l := []) (fun c hc => absurd hc List.not_mem_nil) hblanks
    have hsome : separator? (s ++ rest) = some (rest.dropWhile isBlank) := by
      refine separator?_eq_some_iff.2 ⟨_, hwiden, ?_, Text.isBlank_head?_dropWhile⟩
      rw [List.nil_append, List.append_assoc, List.takeWhile_append_dropWhile]
    rw [hsome] at h
    cases h
  · intro h
    cases hsome : separator? cs with
    | none => rfl
    -- a separator is not empty, so what follows it is shorter
    | some rest =>
      obtain ⟨s, hs, rfl, -⟩ := separator?_eq_some_iff.1 hsome
      exact absurd (List.prefix_append s rest) (h s hs)

/-! ### Splitting -/

theorem Splits.ne_nil (h : Splits cs ts) : ts ≠ [] := by
  cases h with
  | done => exact List.cons_ne_nil _ _
  | cut => exact List.cons_ne_nil _ _
  | keep => exact List.cons_ne_nil _ _

theorem Splits.of_separator?_eq_some (h : separator? cs = some rest) (hrest : Splits rest ts) :
    Splits cs ([] :: ts) := by
  obtain ⟨s, hs, rfl, hhead⟩ := separator?_eq_some_iff.1 h
  exact .cut hs hhead hrest

/-- The program splits texts up to the length that is given to it. -/
theorem splits_splitTerms {fuel : Nat} (h : cs.length ≤ fuel) : Splits cs (splitTerms fuel cs) := by
  induction fuel generalizing cs with
  | zero =>
    obtain rfl := List.eq_nil_of_length_eq_zero (Nat.le_zero.1 h)
    exact .done
  | succ fuel ih =>
    cases cs with
    | nil => exact .done
    | cons c cs =>
      rw [splitTerms]
      cases hsep : separator? (c :: cs) with
      | some rest =>
        obtain ⟨s, hs, htext, -⟩ := separator?_eq_some_iff.1 hsep
        have hlength : (c :: cs).length = s.length + rest.length := by
          rw [htext, List.length_append]
        have hpos := List.length_pos_of_ne_nil hs.ne_nil
        exact .of_separator?_eq_some hsep (ih (by omega))
      | none =>
        have hrest := ih (Nat.le_of_succ_le_succ h)
        obtain ⟨t, ts, hts⟩ := List.exists_cons_of_ne_nil hrest.ne_nil
        rw [hts] at hrest ⊢
        exact .keep (separator?_eq_none_iff.1 hsep) hrest

/-- There is no other way to split a text. -/
theorem Splits.splitTerms_eq (h : Splits cs ts) {fuel : Nat} (hfuel : cs.length ≤ fuel) :
    splitTerms fuel cs = ts := by
  induction h generalizing fuel with
  | done => cases fuel <;> rfl
  | @cut s rest ts hs hhead _ ih =>
    have hsep : separator? (s ++ rest) = some rest :=
      separator?_eq_some_iff.2 ⟨s, hs, rfl, hhead⟩
    obtain ⟨c, s', rfl⟩ := List.exists_cons_of_ne_nil hs.ne_nil
    rw [List.cons_append] at hsep hfuel ⊢
    rw [List.length_cons, List.length_append] at hfuel
    -- the text is not empty, so neither is the fuel
    obtain ⟨fuel, rfl⟩ : ∃ k, fuel = k + 1 := ⟨fuel - 1, by omega⟩
    rw [splitTerms, hsep]
    dsimp only
    rw [ih (by omega)]
  | @keep c cs t ts hnone _ ih =>
    rw [List.length_cons] at hfuel
    obtain ⟨fuel, rfl⟩ : ∃ k, fuel = k + 1 := ⟨fuel - 1, by omega⟩
    rw [splitTerms, separator?_eq_none_iff.2 hnone]
    dsimp only
    rw [ih (by omega)]

/-! ### A separator between two texts -/

theorem not_isBlank_getLast? {l : List Char} (hl : ∀ c ∈ l, isBlank c = true) (hne : l ≠ [])
    (front : List Char) : ¬∀ c ∈ (front ++ l).getLast?, isBlank c = false := by
  intro h
  have hlast := List.getLast?_eq_some_getLast hne
  rw [List.getLast?_append_of_ne_nil _ hne] at h
  have hfalse := h _ hlast
  rw [hl _ (List.mem_of_mem_getLast? hlast)] at hfalse
  cases hfalse

/-- The start of a separator whose last character is no blank ends in the word, or between its
letters. -/
theorem IsSeparator.of_append {x : List Char} (hs : IsSeparator (a ++ x)) (ha : a ≠ [])
    (hlast : ∀ c ∈ a.getLast?, isBlank c = false) :
    EndsInOr a ∨ ∃ r ∈ x.head?, isBlank r = false := by
  obtain ⟨u, w, v, hsep, hu, hw, hv⟩ := hs
  obtain ⟨o, r, rfl, -, -, hr⟩ := hw.exists_letters
  rw [List.append_assoc] at hsep
  rcases List.append_eq_append_iff.1 hsep with ⟨u', rfl, -⟩ | ⟨w', rfl, hword⟩
  · -- all of the start is in front of the word
    have hblank : ∀ c ∈ a, isBlank c = true := fun c hc => hu.2 c (List.mem_append_left _ hc)
    exact absurd hlast (not_isBlank_getLast? hblank ha [])
  · rcases w' with _ | ⟨o', _ | ⟨r', v'⟩⟩
    · rw [List.append_nil] at hlast
      exact absurd hlast (not_isBlank_getLast? hu.2 hu.1 [])
    · -- it stops between the letters
      obtain ⟨-, rfl⟩ := List.cons.inj hword
      exact .inr ⟨r, rfl, hr⟩
    · obtain ⟨rfl, hrest⟩ := List.cons.inj hword
      obtain ⟨rfl, hbehind⟩ := List.cons.inj hrest
      by_cases hnil : v' = []
      · -- it stops right behind the word
        obtain ⟨front, d, rfl⟩ := (List.eq_nil_or_concat u).resolve_left hu.1
        refine .inl ⟨front, d, [o, r], ?_, hu.2 d (by simp), hw⟩
        rw [hnil, List.concat_eq_append, List.append_assoc]
        rfl
      · have hblank : ∀ c ∈ v', isBlank c = true := by
          intro c hc
          refine hv.2 c ?_
          rw [show v = v' ++ x from hbehind]
          exact List.mem_append_left _ hc
        have hfalse := not_isBlank_getLast? hblank hnil (u ++ [o, r])
        rw [List.append_assoc] at hfalse
        exact absurd hlast hfalse

/-- Where no separator stands in a text, none stands when a blank follows it, unless the text ends
in a blank or in the word that the blank completes. -/
theorem not_prefix_append (ha : a ≠ []) (hlast : ∀ c ∈ a.getLast?, isBlank c = false)
    (hend : ¬EndsInOr a) (hnone : ∀ s, IsSeparator s → ¬s <+: a)
    (hb : ∀ c ∈ b.head?, isBlank c = true) : ∀ s, IsSeparator s → ¬s <+: a ++ b := by
  intro s hs hprefix
  rcases List.prefix_or_prefix_of_prefix hprefix (List.prefix_append a b) with h | ⟨x, rfl⟩
  · exact hnone s hs h
  · -- the separator is longer than the text, and goes on with a blank
    rw [List.prefix_append_right_inj] at hprefix
    obtain ⟨rest, rfl⟩ := hprefix
    rcases hs.of_append ha hlast with h | ⟨r, hr, hblank⟩
    · exact hend h
    · have hhead : r ∈ (x ++ rest).head? := by
        rw [List.head?_append, hr]
        rfl
      rw [hb r hhead] at hblank
      cases hblank

/-- A text that is followed by a separator and another text has its own parts and those of the
other. -/
theorem Splits.append (ha : Splits a ts) (hlast : ∀ c ∈ a.getLast?, isBlank c = false)
    (hend : ¬EndsInOr a) (hs : IsSeparator s) (hhead : ∀ c ∈ b.head?, isBlank c = false)
    (hb : Splits b us) : Splits (a ++ (s ++ b)) (ts ++ us) := by
  have hblank : ∀ c ∈ (s ++ b).head?, isBlank c = true := by
    rw [List.head?_append_of_ne_nil _ hs.ne_nil]
    exact hs.isBlank_head?
  induction ha with
  | done =>
    show Splits (s ++ b) ([] :: us)
    exact .cut hs hhead hb
  | @cut s' rest ts hs' hhead' _ ih =>
    -- something follows the separator, since the text does not end in a blank
    have hne : rest ≠ [] := by
      rintro rfl
      have hlast' := List.getLast?_eq_some_getLast hs'.ne_nil
      rw [List.append_nil] at hlast
      have hfalse := hlast _ hlast'
      rw [hs'.isBlank_getLast? _ hlast'] at hfalse
      cases hfalse
    rw [List.getLast?_append_of_ne_nil _ hne] at hlast
    have hend' : ¬EndsInOr rest := by
      rintro ⟨front, d, w, rfl, hd, hw⟩
      exact hend ⟨s' ++ front, d, w, (List.append_assoc _ _ _).symm, hd, hw⟩
    rw [List.append_assoc]
    refine .cut hs' ?_ (ih hlast hend')
    rw [List.head?_append_of_ne_nil _ hne]
    exact hhead'
  | @keep c cs t ts hnone hrest ih =>
    refine .keep (not_prefix_append (List.cons_ne_nil c cs) hlast hend hnone hblank) ?_
    refine ih (fun d hd => hlast d ?_) ?_
    · rw [List.getLast?_cons, hd]
      rfl
    · rintro ⟨front, d, w, rfl, hd, hw⟩
      exact hend ⟨c :: front, d, w, rfl, hd, hw⟩

/-! ### Alternatives -/

/-- The parts of a text without the blanks at its ends. -/
def parts (cs : List Char) : List (List Char) := splitTerms (trim cs).length (trim cs)

theorem terms_parse (template : String) :
    (parse template).terms = (parts template.toList).map fun t => String.ofList (trim t) := rfl

/-- The parts of a template are those of the trimmed text. -/
theorem splits_parts (cs : List Char) : Splits (trim cs) (parts cs) :=
  splits_splitTerms (Nat.le_refl _)

theorem trim_ne_nil (h : ∃ c ∈ cs, isBlank c = false) : trim cs ≠ [] := by
  intro hnil
  obtain ⟨c, hc, hblank⟩ := h
  rw [Text.trim_eq_nil_iff.1 hnil c hc] at hblank
  cases hblank

/-- The parts of two templates with a separator between them are those of the two. -/
theorem parts_append (ha : ∃ c ∈ a, isBlank c = false) (hb : ∃ c ∈ b, isBlank c = false)
    (hend : ¬EndsInOr (trim a)) (hs : IsSeparator s) : parts (a ++ s ++ b) = parts a ++ parts b := by
  obtain ⟨la, ra, hta, hla, hra⟩ := Text.exists_eq_append_trim a
  obtain ⟨lb, rb, htb, hlb, hrb⟩ := Text.exists_eq_append_trim b
  have hne := trim_ne_nil ha
  have hne' := trim_ne_nil hb
  have htrimmed := Text.isTrimmed_trim a
  have htrimmed' := Text.isTrimmed_trim b
  -- the blanks around the separator widen it, the others are taken off
  have hwide : IsSeparator (ra ++ s ++ lb) := hs.widen hra hlb
  have hmiddle : IsTrimmed (trim a ++ (ra ++ s ++ lb ++ trim b)) := by
    constructor
    · rw [List.head?_append_of_ne_nil _ hne]
      exact htrimmed.1
    · rw [List.getLast?_append_of_ne_nil _ (List.append_ne_nil_of_right_ne_nil _ hne'),
        List.getLast?_append_of_ne_nil _ hne']
      exact htrimmed'.2
  have htrim : trim (a ++ s ++ b) = trim a ++ (ra ++ s ++ lb ++ trim b) := by
    have htext : a ++ s ++ b = la ++ (trim a ++ (ra ++ s ++ lb ++ trim b)) ++ rb := by
      nth_rewrite 1 [hta]
      nth_rewrite 1 [htb]
      simp only [List.append_assoc]
    rw [htext]
    exact Text.trim_append hmiddle (List.append_ne_nil_of_left_ne_nil hne _) hla hrb
  have hsplits := (splits_parts a).append htrimmed.2 hend hwide htrimmed'.1 (splits_parts b)
  rw [parts, htrim]
  exact hsplits.splitTerms_eq (Nat.le_refl _)

/-- An expression of more terms has the value of the first that have one. -/
theorem resolve?_append (ts us : List String) (captures : Captures) :
    resolve? ⟨ts ++ us⟩ captures = (resolve? ⟨ts⟩ captures).or (resolve? ⟨us⟩ captures) := by
  rw [resolve?, List.filterMap_append, List.find?_append]
  rfl

/-- Two templates, neither of them blank and the first not ending in a blank and `or`, with `or` in
any case and blanks between them: the terms are those of both.  Resolved, this is the value of the
first, and that of the second if the first has none.  The empty text is never a value. -/
theorem parse_or {a sep b : String} (ha : ∃ c ∈ a.toList, isBlank c = false)
    (hb : ∃ c ∈ b.toList, isBlank c = false) (hend : ¬EndsInOr (trim a.toList))
    (hsep : IsSeparator sep.toList) :
    (parse (a ++ sep ++ b)).terms = (parse a).terms ++ (parse b).terms ∧
      ∀ captures,
        (parse (a ++ sep ++ b)).resolve? captures =
          ((parse a).resolve? captures).or ((parse b).resolve? captures) ∧
        ∀ (e : Expression) (v : Value), e.resolve? captures = some v → v ≠ .text "" := by
  have hterms : (parse (a ++ sep ++ b)).terms = (parse a).terms ++ (parse b).terms := by
    rw [terms_parse, terms_parse, terms_parse, String.toList_append, String.toList_append,
      parts_append ha hb hend hsep, List.map_append]
  refine ⟨hterms, fun captures => ⟨?_, fun e v hv hempty => ?_⟩⟩
  · rw [← resolve?_append, ← hterms]
  · have hne := isEmpty_of_resolve? hv
    rw [hempty] at hne
    cases hne

/-- None of the terms in front has a value, and the first one behind is the word `or` itself. -/
theorem parse_or_chain :
    let a := " $fee OR $late"
    let sep := "\u00a0Or\n "
    let b := "\tor or $fee 2 "
    (∃ c ∈ a.toList, isBlank c = false) ∧ (∃ c ∈ b.toList, isBlank c = false) ∧
      ¬EndsInOr (trim a.toList) ∧ IsSeparator sep.toList ∧
      (parse (a ++ sep ++ b)).terms = ["$fee", "$late"] ++ ["or", "$fee 2"] ∧
      (parse (a ++ sep ++ b)).resolve? [] = some (.text "or") := by
  intro a sep b
  have ha : ∃ c ∈ a.toList, isBlank c = false := ⟨'$', by decide +kernel, by decide⟩
  have hb : ∃ c ∈ b.toList, isBlank c = false := ⟨'o', by decide +kernel, by decide⟩
  have hend : ¬EndsInOr (trim a.toList) := by
    rintro ⟨front, d, w, htext, -, hw⟩
    obtain ⟨o, r, rfl, ⟨-, hr⟩, -, -⟩ := hw.exists_letters
    have hlast : (trim a.toList).getLast? = some 'e' := by decide +kernel
    rw [htext, List.getLast?_append_of_ne_nil _ (List.cons_ne_nil _ _)] at hlast
    obtain rfl : r = 'e' := Option.some.inj hlast
    exact absurd hr (by decide)
  have hsep : IsSeparator sep.toList := by
    refine ⟨['\u00a0'], ['O', 'r'], ['\n', ' '], by decide +kernel, ⟨List.cons_ne_nil _ _, ?_⟩,
      by decide, List.cons_ne_nil _ _, ?_⟩
    · rw [List.forall_mem_singleton]
      decide
    · rw [List.forall_mem_cons, List.forall_mem_singleton]
      exact ⟨by decide, by decide⟩
  have hterms : (parse a).terms = ["$fee", "$late"] := by decide +kernel
  have hterms' : (parse b).terms = ["or", "$fee 2"] := by decide +kernel
  have hvalue : ((parse a).resolve? []).or ((parse b).resolve? []) = some (.text "or") := by
    decide +kernel
  obtain ⟨hparse, hresolve⟩ := parse_or ha hb hend hsep
  refine ⟨ha, hb, hend, hsep, ?_, ?_⟩
  · rw [hparse, hterms, hterms']
  · rw [(hresolve []).1, hvalue]

end CancellationPolicy.Expression
