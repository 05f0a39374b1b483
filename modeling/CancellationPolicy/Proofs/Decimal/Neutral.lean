import CancellationPolicy.Proofs.Decimal.Grammar

/-!
# What makes no difference to an amount

Blanks around an amount and a plus sign in front of it change nothing (`parse?_append_blanks`,
`parse?_plus`).  Nor do separators, if they stand where they belong: the amount has the digits of
what is left without them (`parse?_of_isSeparated`).  A text with a comma in any other place is no
amount (`isSeparated_of_parse?`).

A count is an amount or what is left of one in front of a percent sign
(`Count.parse?_eq_some_iff`).
-/

namespace CancellationPolicy

namespace Amount

open Text (trim IsTrimmed)

variable {negative : Bool} {cs ds f s w whole fraction : List Char} {groups : List (List Char)}
  {text : String} {x : Decimal}

/-! ### Characters of an amount -/

theorem mem_separated {c : Char} (hgroups : AreGroups groups) (hc : c ∈ separated groups) :
    isDigit c = true ∨ c = ',' := by
  obtain ⟨g, hg, hmem⟩ := List.mem_flatMap.1 hc
  rcases List.mem_cons.1 hmem with rfl | hmem
  · exact .inr rfl
  · exact .inl ((hgroups.2 g hg).1.2 c hmem)

/-- An amount has digits, signs, separators and points. -/
theorem Writes.mem (h : Writes cs negative whole fraction) :
    ∀ c ∈ cs, isDigit c = true ∨ c ∈ ['+', '-', ',', '.'] := by
  obtain ⟨s, w, f, rfl, hs, hw, hf⟩ := h
  intro c hc
  -- the character is in the sign, in the whole or in the fraction
  rcases List.mem_append.1 hc with hc | hc
  · right
    cases hs with
    | none => cases hc
    | plus => simp [List.mem_singleton.1 hc]
    | minus => simp [List.mem_singleton.1 hc]
  · rcases List.mem_append.1 hc with hc | hc
    · cases hw with
      | plain hds => exact .inl (hds.2 c hc)
      | grouped hds _ hgroups =>
        rcases List.mem_append.1 hc with hc | hc
        · exact .inl (hds.2 c hc)
        · exact (mem_separated hgroups hc).imp_right fun hcomma => by simp [hcomma]
    · cases hf with
      | none => cases hc
      | point hds =>
        rcases List.mem_cons.1 hc with rfl | hc
        · exact .inr (by simp)
        · exact .inl (hds.2 c hc)

theorem Writes.not_isBlank (h : Writes cs negative whole fraction) :
    ∀ c ∈ cs, isBlank c = false := by
  intro c hc
  rcases h.mem c hc with hd | hmem
  · exact isBlank_of_isDigit hd
  · simp only [List.mem_cons, List.not_mem_nil, or_false] at hmem
    rcases hmem with rfl | rfl | rfl | rfl <;> decide

theorem Writes.ne_nil (h : Writes cs negative whole fraction) : cs ≠ [] := by
  obtain ⟨s, w, f, rfl, -, hw, -⟩ := h
  obtain ⟨d, rest, -, rfl⟩ := hw.exists_digit
  exact List.append_ne_nil_of_right_ne_nil _ (List.cons_ne_nil _ _)

theorem Writes.trim_eq (h : Writes cs negative whole fraction) : trim cs = cs :=
  Text.trim_eq_self (fun c hc => h.not_isBlank c (List.mem_of_mem_head? hc))
    fun c hc => h.not_isBlank c (List.mem_of_mem_getLast? hc)

/-! ### Blanks and signs -/

theorem parse?_congr {text' : String} (h : trim text.toList = trim text'.toList) :
    parse? text = parse? text' := by
  rw [parse?, parse?, h]

theorem parse?_append_blanks {l r : String} (hl : ∀ c ∈ l.toList, isBlank c = true)
    (hr : ∀ c ∈ r.toList, isBlank c = true) (text : String) :
    parse? (l ++ text ++ r) = parse? text := by
  refine parse?_congr ?_
  rw [String.toList_append, String.toList_append, Text.trim_append_blanks hl hr]

theorem parse?_ofList_trim (text : String) :
    parse? (String.ofList (trim text.toList)) = parse? text := by
  refine parse?_congr ?_
  rw [String.toList_ofList, Text.trim_trim]

theorem splitSign_of_head? (h : ∀ c ∈ cs.head?, c ≠ '+' ∧ c ≠ '-') :
    splitSign cs = (false, cs) := by
  unfold splitSign
  split
  · exact absurd rfl (h '-' rfl).2
  · exact absurd rfl (h '+' rfl).1
  · rfl

/-- A plus sign in front does not matter. -/
theorem parse?_plus (h : ∀ c ∈ text.toList.head?, isBlank c = false ∧ c ≠ '+' ∧ c ≠ '-') :
    parse? ("+" ++ text) = parse? text := by
  have hplus : trim ("+" ++ text).toList = '+' :: trim text.toList := by
    rw [String.toList_append]
    exact Text.trim_cons (by decide) fun c hc => (h c hc).1
  have hhead : ∀ c ∈ (trim text.toList).head?, c ≠ '+' ∧ c ≠ '-' := by
    -- nothing is taken off at the front
    obtain ⟨r, hr⟩ := Text.trim_prefix_of_head? fun c hc => (h c hc).1
    intro c hc
    exact (h c (by rw [← hr]; exact List.mem_head?_append_of_mem_head? hc)).2
  rw [parse?, parse?, hplus, splitSign_of_head? hhead]
  rfl

/-! ### Separators -/

/-- Whether a text is an amount with separators, each with three digits behind it, and one to three
digits in front of the first. -/
def IsSeparated (cs : List Char) : Prop :=
  ∃ s negative ds groups f fraction, cs = s ++ (ds ++ separated groups ++ f) ∧
    WritesSign s negative ∧ (AreDigits ds ∧ ds.length ≤ 3) ∧ AreGroups groups ∧
    WritesFraction f fraction

/-- The text without its commas. -/
def withoutCommas (text : String) : String := String.ofList (text.toList.filter (· ≠ ','))

theorem comma_not_mem_of_digits (hds : ∀ d ∈ ds, isDigit d = true) : ',' ∉ ds := by
  intro hmem
  have hdigit := hds ',' hmem
  revert hdigit
  decide

theorem comma_not_mem_of_blanks (hcs : ∀ c ∈ cs, isBlank c = true) : ',' ∉ cs := by
  intro hmem
  have hblank := hcs ',' hmem
  revert hblank
  decide

theorem WritesSign.comma_not_mem (h : WritesSign s negative) : ',' ∉ s := by
  cases h <;> decide

theorem WritesFraction.comma_not_mem (h : WritesFraction f fraction) : ',' ∉ f := by
  cases h with
  | none => exact List.not_mem_nil
  | point hds =>
    rw [List.mem_cons, not_or]
    exact ⟨by decide, comma_not_mem_of_digits hds.2⟩

theorem filter_of_not_mem (h : ',' ∉ cs) : cs.filter (· ≠ ',') = cs := by
  refine List.filter_eq_self.2 fun c hc => ?_
  rw [decide_eq_true_eq]
  rintro rfl
  exact h hc

/-- Without the separators, groups are their digits. -/
theorem filter_separated (hgroups : ∀ g ∈ groups, AreDigits g ∧ g.length = 3) :
    (separated groups).filter (· ≠ ',') = groups.flatten := by
  induction groups with
  | nil => rfl
  | cons g groups ih =>
    obtain ⟨hg, hrest⟩ := List.forall_mem_cons.1 hgroups
    rw [separated_cons, List.filter_cons_of_neg (by simp), List.filter_append,
      filter_of_not_mem (comma_not_mem_of_digits hg.1.2), ih hrest, List.flatten_cons]

/-- Separators at their places do not matter. -/
theorem parse?_of_isSeparated (h : IsSeparated (trim text.toList)) :
    parse? text = parse? (withoutCommas text) := by
  obtain ⟨s, negative, ds, groups, f, fraction, htext, hs, ⟨hds, hlen⟩, hgroups, hf⟩ := h
  have hwrites : Writes (trim text.toList) negative (ds ++ groups.flatten) fraction :=
    ⟨s, _, f, htext, hs, .grouped hds hlen hgroups, hf⟩
  have hdigits : AreDigits (ds ++ groups.flatten) :=
    ⟨List.append_ne_nil_of_left_ne_nil hds.1 _, hwrites.digits.1⟩
  have hplain :
      Writes (s ++ (ds ++ groups.flatten ++ f)) negative (ds ++ groups.flatten) fraction :=
    ⟨s, _, f, rfl, hs, .plain hdigits, hf⟩
  -- of all parts of the text only the groups of digits have commas
  obtain ⟨l, r, hcs, hl, hr⟩ := Text.exists_eq_append_trim text.toList
  have hwithout : (withoutCommas text).toList = l ++ (s ++ (ds ++ groups.flatten ++ f)) ++ r := by
    rw [withoutCommas, String.toList_ofList, hcs, htext]
    simp only [List.filter_append, filter_of_not_mem (comma_not_mem_of_blanks hl),
      filter_of_not_mem (comma_not_mem_of_blanks hr), filter_of_not_mem hs.comma_not_mem,
      filter_of_not_mem (comma_not_mem_of_digits hds.2), filter_separated hgroups.2,
      filter_of_not_mem hf.comma_not_mem]
  have htrim : trim (withoutCommas text).toList = s ++ (ds ++ groups.flatten ++ f) := by
    rw [hwithout, Text.trim_append_blanks hl hr, hplain.trim_eq]
  rw [← htrim] at hplain
  rw [parse?_of_writes hwrites, parse?_of_writes hplain]

/-- The separators of an amount are at their places. -/
theorem isSeparated_of_parse? (h : parse? text = some x) (hmem : ',' ∈ text.toList) :
    IsSeparated (trim text.toList) := by
  obtain ⟨negative, whole, fraction, ⟨s, w, f, htext, hs, hw, hf⟩, -⟩ := exists_writes_of_parse? h
  cases hw with
  | grouped hds hlen hgroups =>
    exact ⟨s, negative, _, _, f, fraction, htext, hs, ⟨hds, hlen⟩, hgroups, hf⟩
  | plain hds =>
    -- neither the parts of a plain amount nor the blanks around it have a comma
    obtain ⟨l, r, hcs, hl, hr⟩ := Text.exists_eq_append_trim text.toList
    rw [hcs, htext] at hmem
    simp only [List.mem_append, comma_not_mem_of_blanks hl, comma_not_mem_of_blanks hr,
      hs.comma_not_mem, comma_not_mem_of_digits hds.2, hf.comma_not_mem, or_self] at hmem

end Amount

/-! ### Counts -/

namespace Count

open Text (trim)

variable {cs : List Char} {text : String} {x : Decimal}

theorem dropPercent_of_not_mem (h : '%' ∉ cs) : dropPercent cs = cs := by
  unfold dropPercent
  split
  · rename_i rest hrest
    have hmem : '%' ∈ cs.reverse := by
      rw [hrest]
      exact List.mem_cons_self
    exact absurd (List.mem_reverse.1 hmem) h
  · rfl

theorem dropPercent_concat (cs : List Char) : dropPercent (cs ++ ['%']) = cs := by
  rw [dropPercent, List.reverse_append, List.reverse_singleton, List.singleton_append]
  exact List.reverse_reverse cs

/-- Either nothing is dropped, or a percent sign at the end. -/
theorem dropPercent_cases (cs : List Char) :
    dropPercent cs = cs ∨ cs = dropPercent cs ++ ['%'] := by
  unfold dropPercent
  split
  · rename_i rest hrest
    right
    rw [← List.reverse_cons, ← hrest, List.reverse_reverse]
  · exact .inl rfl

/-- An amount is a count. -/
theorem parse?_of_amount (h : Amount.parse? text = some x) : parse? text = some x := by
  obtain ⟨negative, whole, fraction, hwrites, -⟩ := Amount.exists_writes_of_parse? h
  -- an amount has no percent sign that could be dropped
  have hnone : '%' ∉ trim text.toList := by
    intro hmem
    rcases hwrites.mem '%' hmem with hd | hsign
    · revert hd
      decide
    · revert hsign
      decide
  rw [parse?, dropPercent_of_not_mem hnone, Amount.parse?_ofList_trim, h]

/-- A count is an amount and a percent sign, with blanks behind both. -/
theorem parse?_of_percent {amount blanks : String} (hblanks : ∀ c ∈ blanks.toList, isBlank c = true)
    (h : Amount.parse? amount = some x) : parse? (amount ++ "%" ++ blanks) = some x := by
  obtain ⟨negative, whole, fraction, hwrites, -⟩ := Amount.exists_writes_of_parse? h
  obtain ⟨l, r, hcs, hl, hr⟩ := Text.exists_eq_append_trim amount.toList
  -- the percent sign keeps the blanks in front of it
  have hmiddle : Text.IsTrimmed (trim amount.toList ++ r ++ ['%']) := by
    constructor
    · rw [List.append_assoc, List.head?_append_of_ne_nil _ hwrites.ne_nil]
      exact (Text.isTrimmed_trim _).1
    · intro c hc
      rw [List.getLast?_concat] at hc
      obtain rfl := Option.some.inj hc
      decide
  have htext : (amount ++ "%" ++ blanks).toList =
      l ++ (trim amount.toList ++ r ++ ['%']) ++ blanks.toList := by
    rw [String.toList_append, String.toList_append]
    nth_rewrite 1 [hcs]
    simp only [List.append_assoc]
    rfl
  have htrim : trim (amount ++ "%" ++ blanks).toList = trim amount.toList ++ r ++ ['%'] := by
    rw [htext]
    exact Text.trim_append hmiddle (List.concat_ne_nil _ _) hl hblanks
  rw [parse?, htrim, dropPercent_concat, ← h]
  refine Amount.parse?_congr ?_
  rw [String.toList_ofList, Text.trim_append_of_blanks hr, Text.trim_trim]

/-- In front of a percent sign there is an amount, with blanks behind both. -/
theorem exists_amount_of_percent {inner : List Char} (hinner : trim text.toList = inner ++ ['%'])
    (h : Amount.parse? (String.ofList inner) = some x) :
    ∃ amount blanks : String, text = amount ++ "%" ++ blanks ∧
      (∀ c ∈ blanks.toList, isBlank c = true) ∧ Amount.parse? amount = some x := by
  obtain ⟨l, r, hcs, hl, hr⟩ := Text.exists_eq_append_trim text.toList
  rw [hinner] at hcs
  refine ⟨String.ofList (l ++ inner), String.ofList r, ?_, ?_, ?_⟩
  · refine String.toList_injective ?_
    rw [hcs]
    simp
  · rwa [String.toList_ofList]
  · rw [← h]
    refine Amount.parse?_congr ?_
    rw [String.toList_ofList, String.toList_ofList, Text.trim_blanks_append hl]

/-- A count is an amount, or an amount, a percent sign and blanks. -/
theorem parse?_eq_some_iff :
    parse? text = some x ↔
      Amount.parse? text = some x ∨
        ∃ amount blanks : String, text = amount ++ "%" ++ blanks ∧
          (∀ c ∈ blanks.toList, isBlank c = true) ∧ Amount.parse? amount = some x := by
  constructor
  · intro h
    rw [parse?] at h
    rcases dropPercent_cases (trim text.toList) with hsame | hpercent
    · rw [hsame, Amount.parse?_ofList_trim] at h
      exact .inl h
    · exact .inr (exists_amount_of_percent hpercent h)
  · rintro (h | ⟨amount, blanks, rfl, hblanks, h⟩)
    · exact parse?_of_amount h
    · exact parse?_of_percent hblanks h

end Count

/-! ### Amounts and counts -/

namespace Amount

open Text (trim)

/-- A text is read as an amount if it is written as one between blanks and its number, rounded to an
integer, has 96 bits.  What is read is the nearest decimal to this number, and the number itself if
it has at most 28 digits, or if it has at most 28 behind the point and all of them, as one natural,
have 96 bits.  Blanks around it, a plus sign in front and separators where they belong change
nothing, and a comma anywhere else leaves no amount.  A count is an amount that one percent sign may
follow, with blanks on either side. -/
theorem parse?_reads (text : String) :
    ((parse? text).isSome ↔ ∃ negative whole fraction,
      Writes (trim text.toList) negative whole fraction ∧
        Decimal.Fits (Decimal.number negative whole fraction)) ∧
    (∀ negative whole fraction, Writes (trim text.toList) negative whole fraction →
      ∀ x, parse? text = some x →
        x.IsNearest (Decimal.number negative whole fraction) ∧
        (whole.length + fraction.length ≤ 28 → x.toRat = Decimal.number negative whole fraction) ∧
        (fraction.length ≤ 28 → Nat.ofDigitChars 10 (whole ++ fraction) 0 < 2 ^ 96 →
          x.toRat = Decimal.number negative whole fraction)) ∧
    (∀ l r : String, (∀ c ∈ l.toList, isBlank c = true) → (∀ c ∈ r.toList, isBlank c = true) →
      parse? (l ++ text ++ r) = parse? text) ∧
    ((∀ c ∈ text.toList.head?, isBlank c = false ∧ c ≠ '+' ∧ c ≠ '-') →
      parse? ("+" ++ text) = parse? text) ∧
    (IsSeparated (trim text.toList) → parse? text = parse? (withoutCommas text)) ∧
    (',' ∈ text.toList → ¬IsSeparated (trim text.toList) → parse? text = none) ∧
    (∀ x, parse? text = some x → Count.parse? text = some x) ∧
    ∀ x, Count.parse? text = some x ↔
      parse? text = some x ∨
        ∃ amount blanks : String, text = amount ++ "%" ++ blanks ∧
          (∀ c ∈ blanks.toList, isBlank c = true) ∧ parse? amount = some x := by
  refine ⟨isSome_parse?_iff, fun negative whole fraction hwrites x hx => ?_,
    fun l r hl hr => parse?_append_blanks hl hr text, parse?_plus, parse?_of_isSeparated,
    fun hmem hplace => ?_, fun x => Count.parse?_of_amount, fun x => Count.parse?_eq_some_iff⟩
  · rw [parse?_of_writes hwrites] at hx
    -- with room for all digits no place is cut off
    have hexact (hlen : fraction.length ≤ 28)
        (hroom : Nat.ofDigitChars 10 (whole ++ fraction) 0 < 2 ^ 96) :
        x.toRat = Decimal.number negative whole fraction := by
      obtain ⟨y, hy, hvalue, -, -⟩ := Decimal.ofDigits?_of_room negative hroom hlen
      rw [Option.some.inj (hx.symm.trans hy), hvalue]
    refine ⟨Decimal.isNearest_ofDigits? hwrites.digits.2 hx, fun hlen => ?_, hexact⟩
    have hdigits : ∀ d ∈ whole ++ fraction, isDigit d = true :=
      fun d hd => (List.mem_append.1 hd).elim (hwrites.digits.1 d) (hwrites.digits.2 d)
    have hlt := Decimal.digitsValue_lt_of_length_le hdigits
      (by rw [List.length_append]; exact hlen)
    have hbound : Nat.pow 10 Decimal.maxScale < 2 ^ 96 := by decide
    exact hexact (by omega) (Nat.lt_trans hlt hbound)
  · rw [Option.eq_none_iff_forall_not_mem]
    intro x hx
    exact hplace (isSeparated_of_parse? hx hmem)

/-- An amount with a separator, a point and blanks around it: without the separator, with one that
stands elsewhere, and with a percent sign. -/
theorem parse?_reads_separated :
    let text := "\t-1,234.50 "
    (∃ x : Decimal, parse? text = some x ∧ x.toRat = -1234.5) ∧
      parse? text = parse? "\t-1234.50 " ∧ parse? "\t-12,34.50 " = none ∧
      ∃ x : Decimal, Count.parse? "\t-1,234.50 % " = some x ∧ x.toRat = -1234.5 := by
  intro text
  have hgroups : AreGroups [['2', '3', '4']] :=
    ⟨List.cons_ne_nil _ _, List.forall_mem_singleton.2 ⟨by decide, rfl⟩⟩
  have hhead : AreDigits ['1'] := by decide
  have hfraction : AreDigits ['5', '0'] := by decide
  have htext : trim text.toList =
      ['-'] ++ (['1'] ++ separated [['2', '3', '4']] ++ ['.', '5', '0']) := by
    decide +kernel
  have hwrites : Writes (trim text.toList) true ['1', '2', '3', '4'] ['5', '0'] :=
    ⟨_, _, _, htext, .minus, .grouped hhead (by decide) hgroups, .point hfraction⟩
  have hnumber : Decimal.number true ['1', '2', '3', '4'] ['5', '0'] = -1234.5 := by
    have hwhole : Nat.ofDigitChars 10 ['1', '2', '3', '4'] 0 = 1234 := by decide
    have hdigits : Nat.ofDigitChars 10 ['5', '0'] 0 = 50 := by decide
    rw [Decimal.number, Decimal.fractionValue, hwhole, hdigits, Binary.signed, if_pos rfl]
    norm_num
  have hseparated : IsSeparated (trim text.toList) :=
    ⟨_, _, _, _, _, _, htext, .minus, ⟨hhead, by decide⟩, hgroups, .point hfraction⟩
  obtain ⟨hsome, hvalue, -, -, hneutral, -⟩ := parse?_reads text
  have hfits : Decimal.Fits (Decimal.number true ['1', '2', '3', '4'] ['5', '0']) := by
    rw [Decimal.Fits, hnumber, show Decimal.mantissaBound = 2 ^ 96 from rfl]
    norm_num [abs_of_neg]
  obtain ⟨x, hx⟩ := Option.isSome_iff_exists.1 (hsome.2 ⟨_, _, _, hwrites, hfits⟩)
  have hx_value : x.toRat = -1234.5 :=
    ((hvalue _ _ _ hwrites x hx).2.1 (by decide)).trans hnumber
  have hplain : withoutCommas text = "\t-1234.50 " := by decide +kernel
  have hpercent : "\t-1,234.50 % " = text ++ "%" ++ " " := by decide +kernel
  obtain ⟨-, -, -, -, -, -, -, hcount⟩ := parse?_reads "\t-1,234.50 % "
  refine ⟨⟨x, hx, hx_value⟩, ?_, by decide +kernel, x, ?_, hx_value⟩
  · rw [hneutral hseparated, hplain]
  · have hblank : ∀ c ∈ " ".toList, isBlank c = true := List.forall_mem_singleton.2 (by decide)
    exact (hcount x).2 (.inr ⟨text, " ", hpercent, hblank, hx⟩)

end Amount

end CancellationPolicy
