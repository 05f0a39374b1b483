import CancellationPolicy.Proofs.Decimal.Places

/-!
# The grammar of amounts

`Writes cs negative whole fraction` says that a text is an amount, and which digits stand in front
of its point and behind it.  The reader accepts what is so written between blanks and nothing else
(`writes_iff`), and reads the number that the digits denote (`parse?_of_writes`).

The groups of digits are found by induction on how many there are: all groups at the front of a text
are taken (`exists_groups_of_spanGroups`), and no more than are written (`spanGroups_append`).
-/

namespace CancellationPolicy

namespace Amount

open Text (trim IsTrimmed)

variable {negative : Bool} {cs ds f s w whole fraction : List Char} {groups : List (List Char)}

/-! ### What is written -/

/-- Whether a text consists of digits, at least one. -/
def AreDigits (ds : List Char) : Prop := ds ≠ [] ∧ ∀ d ∈ ds, isDigit d = true

instance (ds : List Char) : Decidable (AreDigits ds) :=
  decidable_of_iff (ds ≠ [] ∧ ds.all isDigit = true) (and_congr_right fun _ => List.all_eq_true)

/-- Digits in groups, with a separator in front of each group. -/
def separated (groups : List (List Char)) : List Char := groups.flatMap (',' :: ·)

/-- Whether all groups have three digits, and there is one. -/
def AreGroups (groups : List (List Char)) : Prop :=
  groups ≠ [] ∧ ∀ g ∈ groups, AreDigits g ∧ g.length = 3

/-- What may stand for a sign. -/
inductive WritesSign : List Char → Bool → Prop where
  /-- No sign is written. -/
  | none : WritesSign [] false
  /-- A plus sign changes nothing. -/
  | plus : WritesSign ['+'] false
  /-- A minus sign. -/
  | minus : WritesSign ['-'] true

/-- What may stand for the digits in front of the point. -/
inductive WritesWhole : List Char → List Char → Prop where
  /-- The digits themselves. -/
  | plain {ds : List Char} (hds : AreDigits ds) : WritesWhole ds ds
  /-- One to three digits and groups of three with separators. -/
  | grouped {ds : List Char} {groups : List (List Char)} (hds : AreDigits ds)
      (hlen : ds.length ≤ 3) (hgroups : AreGroups groups) :
      WritesWhole (ds ++ separated groups) (ds ++ groups.flatten)

/-- What may stand for the digits behind the point. -/
inductive WritesFraction : List Char → List Char → Prop where
  /-- There is no point. -/
  | none : WritesFraction [] []
  /-- A point and the digits. -/
  | point {ds : List Char} (hds : AreDigits ds) : WritesFraction ('.' :: ds) ds

/-- Whether a text is an amount with a sign and the given digits in front of its point and behind
it. -/
def Writes (cs : List Char) (negative : Bool) (whole fraction : List Char) : Prop :=
  ∃ s w f, cs = s ++ (w ++ f) ∧ WritesSign s negative ∧ WritesWhole w whole ∧
    WritesFraction f fraction

/-! ### Reading digits -/

/-- A fraction is read exactly where it is written: nothing, or a point and digits behind it. -/
theorem fraction?_eq_some_iff : fraction? cs = some ds ↔ WritesFraction cs ds := by
  constructor
  · intro h
    unfold fraction? at h
    split at h
    · obtain rfl := Option.some.inj h
      exact .none
    · split at h
      · rename_i hdigits
        rw [Bool.and_eq_true, List.all_eq_true] at hdigits
        obtain rfl := Option.some.inj h
        exact .point ⟨by simpa using hdigits.1, hdigits.2⟩
      · cases h
    · cases h
  · intro h
    cases h with
    | none => rfl
    | point hds =>
      have hall : ds.all isDigit = true := List.all_eq_true.2 hds.2
      simp [fraction?, hds.1, hall]

theorem separated_cons (g : List Char) (groups : List (List Char)) :
    separated (g :: groups) = ',' :: (g ++ separated groups) := by
  rw [separated, List.flatMap_cons]
  rfl

/-- All groups at the front of a text are found. -/
theorem exists_groups_of_spanGroups (cs : List Char) :
    ∃ groups : List (List Char), (∀ g ∈ groups, AreDigits g ∧ g.length = 3) ∧
      cs = separated groups ++ (spanGroups cs).2 ∧ (spanGroups cs).1 = groups.flatten := by
  fun_induction spanGroups cs with
  -- a comma and three digits are one more group
  | case1 a b c rest hdigits ds rest' hspan ih =>
    obtain ⟨groups, hgroups, htext, hds⟩ := ih
    rw [hspan] at htext hds
    simp only [Bool.and_eq_true] at hdigits
    refine ⟨[a, b, c] :: groups, ?_, ?_, ?_⟩
    · refine List.forall_mem_cons.2 ⟨⟨⟨List.cons_ne_nil _ _, ?_⟩, rfl⟩, hgroups⟩
      simp [hdigits]
    · rw [separated_cons, htext]
      rfl
    · rw [List.flatten_cons, ← hds]
      rfl
  | case2 a b c rest _ => exact ⟨[], by simp, rfl, rfl⟩
  | case3 cs _ => exact ⟨[], by simp, rfl, rfl⟩

/-- Groups of three digits are read up to what starts with no separator. -/
theorem spanGroups_append (hgroups : ∀ g ∈ groups, AreDigits g ∧ g.length = 3)
    (hf : ∀ c ∈ f.head?, c ≠ ',') : spanGroups (separated groups ++ f) = (groups.flatten, f) := by
  induction groups with
  | nil =>
    show spanGroups f = ([], f)
    unfold spanGroups
    split
    · exact absurd rfl (hf ',' rfl)
    · rfl
  | cons g groups ih =>
    obtain ⟨⟨⟨-, hg⟩, hlen⟩, hrest⟩ := List.forall_mem_cons.1 hgroups
    obtain ⟨a, b, c, rfl⟩ := List.length_eq_three.1 hlen
    have hdigits : (isDigit a && isDigit b && isDigit c) = true := by
      simpa [and_assoc] using hg
    have htext : separated ([a, b, c] :: groups) ++ f =
        ',' :: a :: b :: c :: (separated groups ++ f) := by
      rw [separated_cons]
      rfl
    rw [htext, spanGroups, if_pos hdigits, ih hrest]
    rfl

theorem WritesFraction.head? (h : WritesFraction f fraction) :
    ∀ c ∈ f.head?, isDigit c = false ∧ c ≠ ',' := by
  intro c hc
  cases h with
  | none => cases hc
  | point =>
    obtain rfl := Option.some.inj hc
    decide

/-- Digits that are written, with or without separators, are read as they are written. -/
theorem digits?_append (hw : WritesWhole w whole) (hf : WritesFraction f fraction) :
    digits? (w ++ f) = some (whole, fraction) := by
  have hstop := hf.head?
  have hfraction := fraction?_eq_some_iff.2 hf
  cases hw with
  | plain hds =>
    have hspan := spanDigits_append hds.2 fun c hc => (hstop c hc).1
    rw [digits?, hspan]
    dsimp only
    rw [if_neg (by simpa using hds.1)]
    split
    · exact absurd rfl (hstop ',' rfl).2
    · rw [hfraction]
      rfl
  | @grouped ds groups hds hlen hgroups =>
    -- the leading digits end at the separator of the first group
    have hcomma : ∃ rest, separated groups ++ f = ',' :: rest := by
      obtain ⟨g, gs, rfl⟩ := List.exists_cons_of_ne_nil hgroups.1
      exact ⟨g ++ separated gs ++ f, by rw [separated_cons, List.cons_append]⟩
    obtain ⟨rest, hrest⟩ := hcomma
    have hspan : spanDigits (ds ++ ',' :: rest) = (ds, ',' :: rest) := by
      refine spanDigits_append hds.2 fun c hc => ?_
      obtain rfl := Option.some.inj hc
      decide
    have hgroups' : spanGroups (',' :: rest) = (groups.flatten, f) := by
      rw [← hrest]
      exact spanGroups_append hgroups.2 fun c hc => (hstop c hc).2
    rw [List.append_assoc, hrest, digits?, hspan]
    dsimp only
    rw [if_neg (by simpa using hds.1), if_pos hlen, hgroups', hfraction]
    rfl

/-- What is read as digits is written as a whole and a fraction. -/
theorem exists_of_digits? (h : digits? cs = some (whole, fraction)) :
    ∃ w f, cs = w ++ f ∧ WritesWhole w whole ∧ WritesFraction f fraction := by
  have htext : cs.takeWhile isDigit ++ cs.dropWhile isDigit = cs :=
    List.takeWhile_append_dropWhile
  have hdigits : ∀ d ∈ cs.takeWhile isDigit, isDigit d = true :=
    fun d hd => List.mem_takeWhile_imp hd
  rw [digits?, spanDigits] at h
  dsimp only at h
  split at h
  · cases h
  · rename_i hne
    have hhead : AreDigits (cs.takeWhile isDigit) := ⟨by simpa using hne, hdigits⟩
    split at h
    · rename_i rest hrest
      split at h
      · rename_i hlen
        obtain ⟨fr, hfr, hpair⟩ := Option.map_eq_some_iff.1 h
        obtain ⟨rfl, rfl⟩ := Prod.mk.inj hpair
        obtain ⟨groups, hgroups, hspan, hds⟩ :=
          exists_groups_of_spanGroups (cs.dropWhile isDigit)
        have hwrites := fraction?_eq_some_iff.1 hfr
        -- without a group the rest would be a fraction that starts with a separator
        have hne_groups : groups ≠ [] := by
          rintro rfl
          have hself : ',' :: rest = (spanGroups (cs.dropWhile isDigit)).2 := hrest.symm.trans hspan
          rw [← hself] at hwrites
          exact (hwrites.head? ',' rfl).2 rfl
        rw [hds]
        refine ⟨_, _, ?_, .grouped hhead hlen ⟨hne_groups, hgroups⟩, hwrites⟩
        rw [List.append_assoc, ← hspan, htext]
      · cases h
    · obtain ⟨fr, hfr, hpair⟩ := Option.map_eq_some_iff.1 h
      obtain ⟨rfl, rfl⟩ := Prod.mk.inj hpair
      exact ⟨_, _, htext.symm, .plain hhead, fraction?_eq_some_iff.1 hfr⟩

/-! ### Reading amounts -/

/-- A whole starts with a digit. -/
theorem WritesWhole.exists_digit (h : WritesWhole w whole) :
    ∃ d rest, isDigit d = true ∧ w = d :: rest := by
  have hfirst : ∀ ds : List Char, AreDigits ds → ∃ d rest, isDigit d = true ∧ ds = d :: rest := by
    intro ds hds
    obtain ⟨d, rest, rfl⟩ := List.exists_cons_of_ne_nil hds.1
    exact ⟨d, rest, hds.2 d List.mem_cons_self, rfl⟩
  cases h with
  | plain hds => exact hfirst _ hds
  | grouped hds _ _ =>
    obtain ⟨d, rest, hd, rfl⟩ := hfirst _ hds
    exact ⟨d, _, hd, List.cons_append⟩

/-- The reader accepts what is written as an amount, with its digits, and nothing else. -/
theorem writes_iff :
    Writes cs negative whole fraction ↔
      ∃ body, splitSign cs = (negative, body) ∧ digits? body = some (whole, fraction) := by
  constructor
  · rintro ⟨s, w, f, rfl, hs, hw, hf⟩
    refine ⟨w ++ f, ?_, digits?_append hw hf⟩
    -- what is written without a sign starts with a digit, which is none
    obtain ⟨d, rest, hd, rfl⟩ := hw.exists_digit
    cases hs with
    | none => exact splitSign_of_isDigit hd _
    | plus => rfl
    | minus => rfl
  · rintro ⟨body, hsign, hdigits⟩
    obtain ⟨w, f, rfl, hw, hf⟩ := exists_of_digits? hdigits
    unfold splitSign at hsign
    split at hsign
    · obtain ⟨rfl, rfl⟩ := Prod.mk.inj hsign
      exact ⟨['-'], w, f, rfl, .minus, hw, hf⟩
    · obtain ⟨rfl, rfl⟩ := Prod.mk.inj hsign
      exact ⟨['+'], w, f, rfl, .plus, hw, hf⟩
    · obtain ⟨rfl, rfl⟩ := Prod.mk.inj hsign
      exact ⟨[], w, f, rfl, .none, hw, hf⟩

variable {text : String} {x : Decimal}

/-- An amount that is written is read as the decimal nearest to it. -/
theorem parse?_of_writes (h : Writes (trim text.toList) negative whole fraction) :
    parse? text = Decimal.ofDigits? negative whole fraction := by
  obtain ⟨body, hsign, hdigits⟩ := writes_iff.1 h
  rw [parse?, hsign]
  dsimp only
  rw [hdigits]

/-- What is read as a decimal is written as an amount. -/
theorem exists_writes_of_parse? (h : parse? text = some x) :
    ∃ negative whole fraction, Writes (trim text.toList) negative whole fraction ∧
      Decimal.ofDigits? negative whole fraction = some x := by
  rw [parse?] at h
  cases hsign : splitSign (trim text.toList) with
  | mk negative body =>
    rw [hsign] at h
    dsimp only at h
    split at h
    · rename_i whole fraction hdigits
      exact ⟨negative, whole, fraction, writes_iff.2 ⟨body, hsign, hdigits⟩, h⟩
    · cases h

theorem AreGroups.isDigit (h : AreGroups groups) : ∀ d ∈ groups.flatten, isDigit d = true := by
  intro d hd
  obtain ⟨g, hg, hmem⟩ := List.mem_flatten.1 hd
  exact (h.2 g hg).1.2 d hmem

/-- The digits that are written are digits. -/
theorem Writes.digits (h : Writes cs negative whole fraction) :
    (∀ d ∈ whole, isDigit d = true) ∧ ∀ d ∈ fraction, isDigit d = true := by
  obtain ⟨s, w, f, -, -, hw, hf⟩ := h
  constructor
  · cases hw with
    | plain hds => exact hds.2
    | grouped hds _ hgroups =>
      exact fun d hd => (List.mem_append.1 hd).elim (hds.2 d) (hgroups.isDigit d)
  · cases hf with
    | none => simp
    | point hds => exact hds.2

/-- A text is read exactly if it is an amount that fits into a decimal. -/
theorem isSome_parse?_iff :
    (parse? text).isSome ↔ ∃ negative whole fraction,
      Writes (trim text.toList) negative whole fraction ∧
        Decimal.Fits (Decimal.number negative whole fraction) := by
  constructor
  · intro h
    obtain ⟨x, hx⟩ := Option.isSome_iff_exists.1 h
    obtain ⟨negative, whole, fraction, hwrites, hread⟩ := exists_writes_of_parse? hx
    refine ⟨negative, whole, fraction, hwrites, ?_⟩
    rw [← Decimal.isSome_ofDigits?_iff hwrites.digits.2, hread]
    rfl
  · rintro ⟨negative, whole, fraction, hwrites, hfits⟩
    rw [parse?_of_writes hwrites]
    exact (Decimal.isSome_ofDigits?_iff hwrites.digits.2).2 hfits

end Amount

end CancellationPolicy
