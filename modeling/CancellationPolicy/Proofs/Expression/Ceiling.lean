import CancellationPolicy.Proofs.Decimal.Neutral
import CancellationPolicy.Proofs.Decimal.Quotient
import CancellationPolicy.Proofs.Expression.Display
import CancellationPolicy.Proofs.Expression.References

/-!
# Calls of `ceil`

A term that is a call of `ceil` with the quotient of two integers, when its references are replaced,
is worth the least integer not below the quotient, and nothing if the divisor is zero
(`termValue?_quotient`).

Whether a term is a call is seen only when its references are replaced.  So a part of the match that
holds a closing parenthesis ends the call early, and what then stands there is a text like any
other: the value of the term shows its own syntax.  In all other cases a call is worth an integer or
nothing (`resolve?_call`).
-/

namespace CancellationPolicy.Expression

open Text (trim)
open Amount (Writes)

variable {a b cs inner s u v w : List Char} {ps qs : List Piece} {name : String}
  {captures : Captures} {x y : ℤ}

/-! ### Operands -/

/-- Whether a text is an integer of at most 28 digits with blanks around it. -/
def IsOperand (cs : List Char) (x : ℤ) : Prop :=
  ∃ negative whole, Writes (trim cs) negative whole [] ∧ whole.length ≤ 28 ∧
    (x : ℚ) = Decimal.number negative whole []

/-- Whether a text is a call of `ceil`, in any case, with a quotient of two integers. -/
def IsQuotientCall (cs : List Char) (x y : ℤ) : Prop :=
  ∃ w a b, cs = w ++ '(' :: ((a ++ '/' :: b) ++ [')']) ∧ IsCeil w ∧ IsOperand a x ∧ IsOperand b y

/-- An integer of at most 28 digits is read as it is. -/
theorem parse?_of_isOperand (h : IsOperand cs x) :
    ∃ n : Decimal, Amount.parse? (String.ofList cs) = some n ∧ n.toRat = x ∧ n.scale = 0 ∧
      n.mantissa < 10 ^ Decimal.maxScale := by
  obtain ⟨negative, whole, hwrites, hlen, hx⟩ := h
  have hlt := Decimal.digitsValue_lt_of_length_le hwrites.digits.1 hlen
  have hbound : Nat.pow 10 Decimal.maxScale < Decimal.mantissaBound := by decide
  have hroom : Decimal.digitsValue 0 (whole ++ []) < Decimal.mantissaBound := by
    rw [List.append_nil]
    omega
  obtain ⟨n, hn, hvalue, hscale, hmantissa⟩ :=
    Decimal.ofDigits?_of_room negative hroom (Nat.zero_le _)
  refine ⟨n, ?_, hvalue.trans hx.symm, hscale, ?_⟩
  · rw [← hn]
    exact Amount.parse?_of_writes (by rwa [String.toList_ofList])
  · rw [hmantissa, List.append_nil]
    exact hlt

/-- An operand consists of blanks and the characters of an amount. -/
theorem mem_of_isOperand (h : IsOperand cs x) {c : Char} (hc : c ∈ cs) :
    Amount.isDigit c = true ∨ c ∈ ['+', '-', ',', '.'] ∨ isBlank c = true := by
  obtain ⟨negative, whole, hwrites, -, -⟩ := h
  obtain ⟨l, r, hcs, hl, hr⟩ := Text.exists_eq_append_trim cs
  rw [hcs] at hc
  rcases List.mem_append.1 hc with hc | hc
  · rcases List.mem_append.1 hc with hc | hc
    · exact .inr (.inr (hl c hc))
    · exact (hwrites.mem c hc).imp_right .inl
  · exact .inr (.inr (hr c hc))

/-- An operand has nothing that ends it, or the call. -/
theorem not_mem_of_isOperand (h : IsOperand cs x) : '/' ∉ cs ∧ ')' ∉ cs :=
  ⟨fun hmem => absurd (mem_of_isOperand h hmem) (by decide),
    fun hmem => absurd (mem_of_isOperand h hmem) (by decide)⟩

/-- The blanks at the ends of an operand make no difference to what is read. -/
theorem IsOperand.of_trim_eq (h : IsOperand a x) (hab : trim b = trim a) : IsOperand b x := by
  unfold IsOperand at h ⊢
  rwa [hab]

theorem split_of_isOperand (h : IsOperand cs x) : Text.split (· == '/') cs = [cs] := by
  refine Text.split_of_no_sep fun c hc => ?_
  rw [beq_eq_false_iff_ne]
  rintro rfl
  exact (not_mem_of_isOperand h).1 hc

theorem trim_ne_nil_of_isOperand (h : IsOperand cs x) : trim cs ≠ [] := by
  obtain ⟨_, _, hwrites, -, -⟩ := h
  exact hwrites.ne_nil

/-- The two operands are found, though the blanks in front of the first and behind the second are
taken off before. -/
theorem exists_operands (ha : IsOperand a x) (hb : IsOperand b y) :
    ∃ a' b', Text.split (· == '/') (trim (a ++ '/' :: b)) = [a', b'] ∧ IsOperand a' x ∧
      IsOperand b' y := by
  -- the blanks next to the slash are left, and do not matter since operands are trimmed themselves
  obtain ⟨a', b', htrim, hta, htb⟩ := Text.exists_trim_append_cons '/'
    (trim_ne_nil_of_isOperand ha) (trim_ne_nil_of_isOperand hb)
  have hx := ha.of_trim_eq hta
  have hy := hb.of_trim_eq htb
  refine ⟨a', b', ?_, hx, hy⟩
  rw [htrim, Text.split_append_cons _ _ (by decide), split_of_isOperand hx, split_of_isOperand hy]
  rfl

/-- The quotient of two operands is rounded up, unless the divisor is zero. -/
theorem ceilValue?_of_operands (ha : IsOperand a x) (hb : IsOperand b y) :
    (y = 0 → ceilValue? (trim (a ++ '/' :: b)) = none) ∧
      (y ≠ 0 → ∃ n : Decimal, ceilValue? (trim (a ++ '/' :: b)) = some n ∧
        n.toRat = ⌈(x : ℚ) / y⌉) := by
  obtain ⟨a', b', hsplit, hx, hy⟩ := exists_operands ha hb
  obtain ⟨m, hm, hmx, hmscale, hmlt⟩ := parse?_of_isOperand hx
  obtain ⟨n, hn, hny, hnscale, hnlt⟩ := parse?_of_isOperand hy
  have hvalue : ceilValue? (trim (a ++ '/' :: b)) = (m.div? n).map Decimal.ceil := by
    rw [ceilValue?, hsplit]
    simp only [List.map_cons, List.map_nil, hm, hn]
  -- a divisor without places is zero if its digits are
  have hzero : n.mantissa = 0 ↔ y = 0 := by
    have habs := n.abs_toRat
    rw [hny, hnscale, pow_zero, div_one] at habs
    rw [← Nat.cast_eq_zero (R := ℚ), ← habs, abs_eq_zero, Int.cast_eq_zero]
  rw [hvalue]
  constructor
  · intro hy0
    rw [Decimal.div?, if_pos (hzero.2 hy0)]
    rfl
  · intro hy0
    obtain ⟨q, hq, hceil⟩ := Decimal.ceil_div? (x := m) (y := n)
      (by rwa [hnscale, pow_zero, Nat.mul_one]) (by rwa [hmscale, pow_zero, Nat.mul_one])
      (fun h => hy0 (hzero.1 h))
    refine ⟨q.ceil, by rw [hq]; rfl, ?_⟩
    rw [hceil, hmx, hny]

/-- A term that is a call of `ceil` with a quotient of integers, its references replaced, is worth
nothing if the divisor is zero, and the least integer not below the quotient otherwise. -/
theorem termValue?_quotient {term : String} (hps : Consists term.toList ps)
    (hpresent : ∀ name, Refers term.toList name → Present captures name)
    (hcall : IsQuotientCall (trim (ps.flatMap (Piece.text captures))) x y) :
    (termValue? captures term = none ↔ y = 0) ∧
      (y ≠ 0 → ∃ n : Decimal, termValue? captures term = some (.number n) ∧
        n.toRat = ⌈(x : ℚ) / y⌉) := by
  obtain rfl := hps.unique (consists_pieces term)
  obtain ⟨w, a, b, htext, hw, ha, hb⟩ := hcall
  -- the call is found as a whole: its only closing parenthesis is the last character
  have hclosing : ')' ∉ a ++ '/' :: b := by
    rw [List.mem_append, List.mem_cons]
    rintro (hmem | hmem | hmem)
    · exact (not_mem_of_isOperand ha).2 hmem
    · revert hmem
      decide
    · exact (not_mem_of_isOperand hb).2 hmem
  have hvalue : termValue? captures term = (ceilValue? (trim (a ++ '/' :: b))).map .number := by
    rw [termValue?_eq hpresent, ← literalValue?_trim, htext,
      literalValue?_call hw (List.append_ne_nil_of_right_ne_nil _ (List.cons_ne_nil _ _)) hclosing]
  obtain ⟨hzero, hnonzero⟩ := ceilValue?_of_operands ha hb
  rw [hvalue]
  refine ⟨⟨fun hnone => ?_, fun hy => by rw [hzero hy]; rfl⟩, fun hy => ?_⟩
  · by_contra hy
    obtain ⟨n, hn, -⟩ := hnonzero hy
    rw [hn] at hnone
    cases hnone
  · obtain ⟨n, hn, hceil⟩ := hnonzero hy
    exact ⟨n, by rw [hn]; rfl, hceil⟩

/-- Two numbers of 28 digits, one of them from a part of the match, and a quotient that differs from
one in the 28th place behind the point only. -/
theorem termValue?_quotient_longest :
    let captures := [("n", " 9999999999999999999999999999")]
    let term := "Ceil($n/\u00a0+9999999999999999999999999998)"
    ∃ n : Decimal, termValue? captures term = some (.number n) ∧ n.toRat = 2 := by
  intro captures term
  -- the term is the call with the capture as its dividend, which is present
  have hpieces : pieces term = ("Ceil(".toList.map .char ++ .reference "n" ::
      "/\u00a0+9999999999999999999999999998)".toList.map .char) := by decide +kernel
  have hpresent : ∀ name, Refers term.toList name → Present captures name := by
    intro name hname
    have hmem := (consists_pieces term).refers_iff.1 hname
    rw [hpieces] at hmem
    obtain rfl : name = "n" := by simpa using hmem
    exact ⟨_, rfl, by decide⟩
  have hx : IsOperand " 9999999999999999999999999999".toList 9999999999999999999999999999 := by
    refine ⟨false, List.replicate 28 '9', ?_, by decide, ?_⟩
    · exact Amount.writes_iff.2 ⟨List.replicate 28 '9', by decide +kernel, by decide +kernel⟩
    · have hdigits : Nat.ofDigitChars 10 (List.replicate 28 '9') 0 =
          9999999999999999999999999999 := by decide
      rw [Decimal.number, hdigits]
      norm_num [Decimal.fractionValue, Binary.signed]
  have hy : IsOperand "\u00a0+9999999999999999999999999998".toList
      9999999999999999999999999998 := by
    refine ⟨false, List.replicate 27 '9' ++ ['8'], ?_, by decide, ?_⟩
    · exact Amount.writes_iff.2
        ⟨List.replicate 27 '9' ++ ['8'], by decide +kernel, by decide +kernel⟩
    · have hdigits : Nat.ofDigitChars 10 (List.replicate 27 '9' ++ ['8']) 0 =
          9999999999999999999999999998 := by decide
      rw [Decimal.number, hdigits]
      norm_num [Decimal.fractionValue, Binary.signed]
  have hcall : IsQuotientCall (trim ((pieces term).flatMap (Piece.text captures)))
      9999999999999999999999999999 9999999999999999999999999998 :=
    ⟨"Ceil".toList, _, _, by decide +kernel, by decide, hx, hy⟩
  obtain ⟨n, hn, hvalue⟩ :=
    (termValue?_quotient (consists_pieces term) hpresent hcall).2 (by decide)
  refine ⟨n, hn, hvalue.trans ?_⟩
  have hceil : ⌈((9999999999999999999999999999 : ℤ) : ℚ) / (9999999999999999999999999998 : ℤ)⌉ =
      2 := by
    rw [Int.ceil_eq_iff]
    norm_num
  rw [hceil, Int.cast_ofNat]

/-! ### Calls of any text -/

/-- Whether the references of a text can all be replaced, and one of them by a text with a closing
parenthesis. -/
def ClosesEarly (captures : Captures) (cs : List Char) : Prop :=
  (∀ name, Refers cs name → Present captures name) ∧
    ∃ name s, Refers cs name ∧ Keyed.find? name captures = some s ∧ ')' ∈ s.toList

/-- The text that stands in a call when its references are replaced. -/
def replaced (captures : Captures) (cs : List Char) : List Char :=
  (pieces (String.ofList cs)).flatMap (Piece.text captures)

theorem consists_ofList (cs : List Char) : Consists cs (pieces (String.ofList cs)) := by
  have hconsists := consists_pieces (String.ofList cs)
  rwa [String.toList_ofList] at hconsists

theorem IsCeil.not_mem {c : Char} (hw : IsCeil w) (hc : c.toLower ∉ ['c', 'e', 'i', 'l']) :
    c ∉ w := by
  intro hmem
  have hlower := List.mem_map_of_mem (f := Char.toLower) hmem
  rw [hw] at hlower
  exact hc hlower

/-- The references of a call are those between its parentheses. -/
theorem consists_call (hw : IsCeil w) (inner : List Char) :
    Consists (w ++ '(' :: (inner ++ [')']))
      ((w ++ ['(']).map .char ++ (pieces (String.ofList inner) ++ [.char ')'])) := by
  have hinner := consists_ofList inner
  have hclosing : Consists [')'] [.char ')'] := .char (fun h => absurd h (by decide)) .done
  have hdollar : '$' ∉ w ++ ['('] := by
    rw [List.mem_append, not_or]
    exact ⟨hw.not_mem (by decide), by decide⟩
  have hcall := consists_chars hdollar
    (hinner.append hclosing (stopsName_cons (by decide) []))
  rwa [List.append_assoc] at hcall

theorem refers_call_iff (hw : IsCeil w) :
    Refers (w ++ '(' :: (inner ++ [')'])) name ↔ Refers inner name := by
  have hinner := consists_ofList inner
  rw [(consists_call hw inner).refers_iff, hinner.refers_iff]
  simp

theorem flatMap_text_chars (captures : Captures) (cs : List Char) :
    (cs.map Piece.char).flatMap (Piece.text captures) = cs := by
  induction cs with
  | nil => rfl
  | cons c cs ih =>
    rw [List.map_cons, List.flatMap_cons, ih]
    rfl

/-- In a call, what is between the parentheses is replaced, and the rest stays. -/
theorem flatMap_text_call (hw : IsCeil w) (captures : Captures) (inner : List Char) :
    (pieces (String.ofList (w ++ '(' :: (inner ++ [')'])))).flatMap (Piece.text captures) =
      w ++ '(' :: (replaced captures inner ++ [')']) := by
  rw [(consists_ofList _).unique (consists_call hw inner), List.flatMap_append,
    List.flatMap_append, flatMap_text_chars, List.append_assoc]
  rfl

/-- A closing parenthesis in the call comes from a reference. -/
theorem closing_mem_replaced_iff (h : ')' ∉ inner) :
    ')' ∈ replaced captures inner ↔
      ∃ name s, Refers inner name ∧ Keyed.find? name captures = some s ∧ ')' ∈ s.toList := by
  have hinner := consists_ofList inner
  constructor
  · intro hmem
    obtain ⟨p, hp, hc⟩ := List.mem_flatMap.1 hmem
    cases p with
    | char c =>
      obtain rfl := List.mem_singleton.1 hc
      exact absurd (hinner.mem_of_char hp) h
    | reference name =>
      cases hfind : Keyed.find? name captures with
      | none =>
        rw [Piece.text, hfind] at hc
        cases hc
      | some s =>
        rw [Piece.text, hfind] at hc
        exact ⟨name, s, hinner.refers_iff.2 hp, hfind, hc⟩
  · rintro ⟨name, s, hrefers, hfind, hc⟩
    refine List.mem_flatMap.2 ⟨.reference name, hinner.refers_iff.1 hrefers, ?_⟩
    rw [Piece.text, hfind]
    exact hc

/-- References that are present are not replaced by nothing. -/
theorem replaced_ne_nil (hne : inner ≠ [])
    (hpresent : ∀ name, Refers inner name → Present captures name) :
    replaced captures inner ≠ [] := by
  have hinner := consists_ofList inner
  have hpieces : pieces (String.ofList inner) ≠ [] := by
    intro hnil
    rw [hnil] at hinner
    cases hinner
    exact hne rfl
  have hvalues := mapM_value?_eq_some fun name hname => hpresent name (hinner.refers_iff.2 hname)
  exact flatten_ne_nil_of_mapM hvalues hpieces

/-- What is no call is a text, since no amount has a parenthesis. -/
theorem literalValue?_closed (hw : IsCeil w) (h : ')' ∈ cs) :
    literalValue? (w ++ '(' :: (cs ++ [')'])) =
      some (.text (String.ofList (w ++ '(' :: (cs ++ [')'])))) := by
  -- there is no parenthesis in an amount
  have hnone : Amount.parse? (String.ofList (w ++ '(' :: (cs ++ [')']))) = none := by
    rw [Option.eq_none_iff_forall_not_mem]
    intro n hn
    obtain ⟨negative, whole, fraction, hwrites, -⟩ := Amount.exists_writes_of_parse? hn
    rw [String.toList_ofList, trim_call hw] at hwrites
    have hfalse := hwrites.mem '(' (List.mem_append_right _ List.mem_cons_self)
    revert hfalse
    decide
  have hne : (w ++ '(' :: (cs ++ [')'])).isEmpty = false := by simp
  rw [literalValue?, trim_call hw, ceilOperand?_call hw, if_pos (.inr h)]
  dsimp only
  rw [hnone, hne]
  rfl

/-- The value of a call is rounded up. -/
theorem exists_int_of_ceilValue? {n : Decimal} (h : ceilValue? cs = some n) :
    ∃ i : ℤ, n.toRat = i := by
  have hceil : ∀ {d : Option Decimal}, d.map Decimal.ceil = some n → ∃ i : ℤ, n.toRat = i := by
    intro d hd
    obtain ⟨m, -, rfl⟩ := Option.map_eq_some_iff.1 hd
    exact ⟨_, m.toRat_ceil⟩
  unfold ceilValue? at h
  split at h
  · exact hceil h
  · split at h
    · exact hceil h
    · cases h
  · cases h

/-- A template with one term has its text, without the blanks at its ends, for the term. -/
theorem terms_parse_of_length {template : String} (h : (parse template).terms.length = 1) :
    (parse template).terms = [String.ofList (trim template.toList)] := by
  rw [terms_parse, List.length_map] at h
  obtain ⟨t, ht⟩ := List.length_eq_one_iff.1 h
  have hsplits := splits_parts template.toList
  rw [ht] at hsplits
  -- behind a separator there would be another part
  rcases hsplits.first_cases with ⟨htrim, -⟩ | ⟨s, rest, -, -, -, hrest⟩
  · rw [terms_parse, ht, ← htrim, List.map_singleton, Text.trim_trim]
  · exact absurd rfl hrest.ne_nil

/-- A template that is one term, a call of `ceil` in any case with something between its parentheses
and no closing one there: it is worth an integer or nothing, unless a reference is replaced by a
text with a closing parenthesis and no other reference is missing.  Then the call stays as it is
written, with the references replaced. -/
theorem resolve?_call {template : String} (hsingle : (parse template).terms.length = 1)
    (htemplate : trim template.toList = w ++ '(' :: (inner ++ [')'])) (hw : IsCeil w)
    (hne : inner ≠ []) (hclosing : ')' ∉ inner) (captures : Captures) :
    (¬ClosesEarly captures inner →
      (parse template).resolve? captures = none ∨
        ∃ (n : Decimal) (i : ℤ), (parse template).resolve? captures = some (.number n) ∧
          n.toRat = i) ∧
    (ClosesEarly captures inner →
      (parse template).resolve? captures =
        some (.text (String.ofList (w ++ '(' :: (replaced captures inner ++ [')']))))) := by
  have hterms := terms_parse_of_length hsingle
  rw [htemplate] at hterms
  have hresolve : (parse template).resolve? captures =
      termValue? captures (String.ofList (w ++ '(' :: (inner ++ [')']))) := by
    rw [resolve?_eq_findSome?, hterms, List.findSome?_singleton]
  rw [hresolve]
  have hrefers : ∀ name, Refers (String.ofList (w ++ '(' :: (inner ++ [')']))).toList name ↔
      Refers inner name := by
    intro name
    rw [String.toList_ofList, refers_call_iff hw]
  have hreplace (hpresent : ∀ name, Refers inner name → Present captures name) :
      termValue? captures (String.ofList (w ++ '(' :: (inner ++ [')']))) =
        literalValue? (w ++ '(' :: (replaced captures inner ++ [')'])) := by
    rw [termValue?_eq fun name hname => hpresent name ((hrefers name).1 hname),
      flatMap_text_call hw]
  constructor
  · intro hopen
    by_cases hpresent : ∀ name, Refers inner name → Present captures name
    · -- no closing parenthesis has come in, so the call is still one
      have hnone : ')' ∉ replaced captures inner := fun hmem =>
        hopen ⟨hpresent, (closing_mem_replaced_iff hclosing).1 hmem⟩
      rw [hreplace hpresent, literalValue?_call hw (replaced_ne_nil hne hpresent) hnone]
      cases hvalue : ceilValue? (trim (replaced captures inner)) with
      | none => exact .inl rfl
      | some n =>
        obtain ⟨i, hi⟩ := exists_int_of_ceilValue? hvalue
        exact .inr ⟨n, i, rfl, hi⟩
    · -- a missing reference leaves nothing
      simp only [not_forall] at hpresent
      obtain ⟨name, hname, habsent⟩ := hpresent
      exact .inl (termValue?_eq_none ((hrefers name).2 hname) habsent)
  · rintro ⟨hpresent, hmem⟩
    rw [hreplace hpresent, literalValue?_closed hw ((closing_mem_replaced_iff hclosing).2 hmem)]

/-- A number of hours, and one that is closed early. -/
theorem resolve?_call_hours :
    let e := parse " CEIL($h/24)"
    (e.resolve? [("h", "49")] = none ∨
        ∃ (n : Decimal) (i : ℤ), e.resolve? [("h", "49")] = some (.number n) ∧ n.toRat = i) ∧
      e.resolve? [("h", "49)")] = some (.text "CEIL(49)/24)") := by
  intro e
  have htemplate : trim " CEIL($h/24)".toList =
      "CEIL".toList ++ '(' :: ("$h/24".toList ++ [')']) := by decide +kernel
  have hcall := resolve?_call (by decide +kernel) htemplate (by decide) (by decide) (by decide)
  have hrefers {name : String} : Refers "$h/24".toList name ↔ name = "h" := by
    have hpieces : pieces (String.ofList "$h/24".toList) =
        .reference "h" :: "/24".toList.map .char := by decide +kernel
    rw [(consists_ofList _).refers_iff, hpieces]
    simp
  refine ⟨(hcall _).1 ?_, ((hcall _).2 ⟨?_, ?_⟩).trans (by decide +kernel)⟩
  · rintro ⟨-, name, s, hname, hfind, hmem⟩
    obtain rfl := hrefers.1 hname
    obtain rfl := Option.some.inj hfind
    revert hmem
    decide
  · intro name hname
    obtain rfl := hrefers.1 hname
    exact ⟨_, rfl, by decide⟩
  · exact ⟨"h", "49)", hrefers.2 rfl, rfl, by decide⟩

/-- A closing parenthesis in a part of the match makes the call a text. -/
theorem resolve?_call_closed :
    (parse "ceil($x)").terms = ["ceil($x)"] ∧
      (parse "ceil($x)").resolve? [("x", "5)")] = some (.text "ceil(5))") := by
  decide +kernel

end CancellationPolicy.Expression
