import CancellationPolicy.Proofs.Expression.Alternatives

/-!
# References of an expression

A text refers to a name if a dollar sign is followed by the name and then by nothing with which a
name could go on (`Refers`).  `Consists cs ps` says what the pieces of a text are: its references
and its other characters, in order.  There is one such row (`Consists.unique`), the program finds it
(`consists_pieces`), and it refers to the names to which the text refers (`Consists.refers_iff`).

So all references of a term are found before any is replaced, and the term is worth what stands
there when each piece has been put in its place; if one part is missing it is worth nothing
(`termValue?_eq`).  Neither depends on what the parts hold.  Since no reference lies across a
separator, a template refers to the names that its terms refer to (`refers_template_iff`), and its
value depends on the parts of these names alone (`resolve?_replaces`).
-/

namespace CancellationPolicy.Expression

open Text (trim)

variable {name : String} {cs r s u v : List Char} {ps qs : List Piece}
  {captures captures' : Captures}

/-! ### Names in a text -/

/-- Whether a text is a name. -/
def IsName (cs : List Char) : Prop :=
  (∃ c ∈ cs.head?, startsName c = true) ∧ ∀ c ∈ cs, continuesName c = true

/-- Whether a text does not start with a character with which a name could go on. -/
def StopsName (cs : List Char) : Prop := ∀ c ∈ cs.head?, continuesName c = false

/-- Whether a text starts with a name and goes on with something else, or not at all. -/
def StartsWith (cs : List Char) (name : String) : Prop :=
  ∃ rest, cs = name.toList ++ rest ∧ IsName name.toList ∧ StopsName rest

/-- Whether a text refers to a name. -/
def Refers (cs : List Char) (name : String) : Prop :=
  ∃ front rest, cs = front ++ '$' :: rest ∧ StartsWith rest name

/-- What the pieces of a text are. -/
inductive Consists : List Char → List Piece → Prop where
  /-- The text is at its end. -/
  | done : Consists [] []
  /-- No reference starts here: the character stands for itself. -/
  | char {c : Char} {cs : List Char} {ps : List Piece}
      (hc : c = '$' → ∀ d ∈ cs.head?, startsName d = false) (hrest : Consists cs ps) :
      Consists (c :: cs) (.char c :: ps)
  /-- A reference stands here, with the longest name that follows. -/
  | reference {name : String} {rest : List Char} {ps : List Piece} (hname : IsName name.toList)
      (hstop : StopsName rest) (hrest : Consists rest ps) :
      Consists ('$' :: (name.toList ++ rest)) (.reference name :: ps)

theorem continuesName_of_startsName {c : Char} (h : startsName c = true) :
    continuesName c = true := by
  simp only [startsName, continuesName, Bool.or_eq_true, Char.isAlphanum] at h ⊢
  exact h.imp_left .inl

theorem not_continuesName_of_isBlank {c : Char} (h : isBlank c = true) :
    continuesName c = false := by
  have hpoints : ∀ n ∈ blanks.points, continuesName (Char.ofNat n) = false := by decide
  have hfalse := hpoints c.toNat (CharSet.mem_points_of_contains (by decide) h)
  rwa [Char.ofNat_toNat] at hfalse

theorem isName_singleton {c : Char} (h : startsName c = true) : IsName [c] := by
  refine ⟨⟨c, rfl, h⟩, fun d hd => ?_⟩
  obtain rfl := List.mem_singleton.1 hd
  exact continuesName_of_startsName h

theorem IsName.concat {c : Char} (hu : IsName u) (h : continuesName c = true) :
    IsName (u ++ [c]) := by
  obtain ⟨⟨d, hd, hstarts⟩, hall⟩ := hu
  refine ⟨⟨d, List.mem_head?_append_of_mem_head? hd, hstarts⟩, fun e he => ?_⟩
  rcases List.mem_append.1 he with he | he
  · exact hall e he
  · obtain rfl := List.mem_singleton.1 he
    exact h

theorem stopsName_nil : StopsName [] := by
  intro d hd
  cases hd

theorem stopsName_cons {c : Char} (h : continuesName c = false) (cs : List Char) :
    StopsName (c :: cs) := by
  intro d hd
  obtain rfl := Option.some.inj hd
  exact h

/-- A name that stops is the longest with which the text starts. -/
theorem takeWhile_name (hu : ∀ c ∈ u, continuesName c = true) (hr : StopsName r) :
    (u ++ r).takeWhile continuesName = u := by
  have hstop : r.takeWhile continuesName = [] := by
    cases r with
    | nil => rfl
    | cons c r => exact List.takeWhile_cons_of_neg (by simp [hr c rfl])
  rw [List.takeWhile_append_of_pos hu, hstop, List.append_nil]

/-- Of two names in front of the same text, both of which stop there, both are the same. -/
theorem IsName.eq_of_append_eq {r' : List Char} (hu : IsName u) (hv : IsName v) (hr : StopsName r)
    (hr' : StopsName r') (h : u ++ r = v ++ r') : u = v ∧ r = r' := by
  have huv : u = v := by
    rw [← takeWhile_name hu.2 hr, h, takeWhile_name hv.2 hr']
  rw [huv] at h
  exact ⟨huv, List.append_cancel_left h⟩

theorem IsName.dollar_not_mem (h : IsName cs) : '$' ∉ cs := by
  intro hmem
  have hfalse := h.2 '$' hmem
  revert hfalse
  decide

theorem startsName_head? (h : IsName u) (r : List Char) :
    ¬∀ d ∈ (u ++ r).head?, startsName d = false := by
  obtain ⟨⟨d, hd, hstarts⟩, -⟩ := h
  intro hfalse
  rw [hfalse d (List.mem_head?_append_of_mem_head? hd)] at hstarts
  cases hstarts

/-! ### References of a text -/

theorem refers_cons_iff {c : Char} :
    Refers (c :: cs) name ↔ c = '$' ∧ StartsWith cs name ∨ Refers cs name := by
  constructor
  · rintro ⟨front, rest, htext, hstarts⟩
    cases front with
    | nil =>
      obtain ⟨rfl, rfl⟩ := List.cons.inj htext
      exact .inl ⟨rfl, hstarts⟩
    | cons d front =>
      obtain ⟨rfl, rfl⟩ := List.cons.inj htext
      exact .inr ⟨front, rest, rfl, hstarts⟩
  · rintro (⟨rfl, hstarts⟩ | ⟨front, rest, rfl, hstarts⟩)
    · exact ⟨[], cs, rfl, hstarts⟩
    · exact ⟨c :: front, rest, rfl, hstarts⟩

theorem not_refers_nil : ¬Refers [] name := by
  rintro ⟨front, rest, htext, -⟩
  exact absurd htext.symm (List.append_ne_nil_of_right_ne_nil _ (List.cons_ne_nil _ _))

/-- What has no dollar sign refers to nothing, and can be left out at the front. -/
theorem refers_append_left_iff (h : '$' ∉ u) : Refers (u ++ v) name ↔ Refers v name := by
  induction u with
  | nil => rfl
  | cons c u ih =>
    rw [List.mem_cons, not_or] at h
    rw [List.cons_append, refers_cons_iff, ih h.2, or_iff_right]
    exact fun hdollar => h.1 hdollar.1.symm

/-- A blank ends every name. -/
theorem startsWith_append_blank_iff {b : Char} (hb : isBlank b = true) :
    StartsWith (u ++ b :: v) name ↔ StartsWith u name := by
  constructor
  · rintro ⟨rest, htext, hname, hstop⟩
    rcases List.append_eq_append_iff.1 htext with ⟨w, hw, hrest⟩ | ⟨w, rfl, rfl⟩
    · cases w with
      | nil =>
        rw [List.append_nil] at hw
        exact ⟨[], by rw [hw, List.append_nil], hname, stopsName_nil⟩
      | cons d w =>
        -- the blank would be in the name
        obtain ⟨rfl, -⟩ := List.cons.inj hrest
        have hmem : b ∈ name.toList := by
          rw [hw]
          exact List.mem_append_right _ List.mem_cons_self
        have hfalse := hname.2 b hmem
        rw [not_continuesName_of_isBlank hb] at hfalse
        cases hfalse
    · exact ⟨w, rfl, hname, fun d hd => hstop d (List.mem_head?_append_of_mem_head? hd)⟩
  · rintro ⟨rest, rfl, hname, hstop⟩
    refine ⟨rest ++ b :: v, List.append_assoc _ _ _, hname, ?_⟩
    cases rest with
    | nil => exact stopsName_cons (not_continuesName_of_isBlank hb) v
    | cons c rest => exact hstop

theorem dollar_not_blank : isBlank '$' = false := by
  decide

/-- No reference lies across a blank. -/
theorem refers_append_blank_iff {b : Char} (hb : isBlank b = true) :
    Refers (u ++ b :: v) name ↔ Refers u name ∨ Refers v name := by
  induction u with
  | nil =>
    have hdollar : ¬(b = '$' ∧ StartsWith v name) := by
      rintro ⟨rfl, -⟩
      rw [dollar_not_blank] at hb
      cases hb
    rw [List.nil_append, refers_cons_iff, or_iff_right hdollar, or_iff_right not_refers_nil]
  | cons c u ih =>
    rw [List.cons_append, refers_cons_iff, startsWith_append_blank_iff hb, ih, refers_cons_iff,
      or_assoc]

/-! ### Pieces of a text -/

theorem not_startsName_dollar : ∀ d ∈ ('$' :: cs).head?, startsName d = false := by
  intro d hd
  obtain rfl := Option.some.inj hd
  decide

/-- The text that has been read but not been made a piece of, by the name that is being read. -/
def pending : Option (List Char) → List Char
  | none => []
  | some acc => '$' :: acc.reverse

/-- A name behind a dollar sign is a reference to it. -/
theorem Consists.reference_ofList (hu : IsName u) (hr : StopsName r) (h : Consists r ps) :
    Consists ('$' :: (u ++ r)) (.reference (String.ofList u) :: ps) := by
  have hlist : (String.ofList u).toList = u := String.toList_ofList
  rw [← hlist] at hu
  have href := Consists.reference hu hr h
  rwa [hlist] at href

/-- The program reads a text from any place on; a name is never left before it stops. -/
theorem consists_piecesFrom (acc : Option (List Char)) (cs : List Char)
    (hacc : ∀ w ∈ acc, w = [] ∨ IsName w.reverse) :
    Consists (pending acc ++ cs) (piecesFrom acc cs) := by
  -- one case for each state at the end of the text, then for each state and next character
  fun_induction piecesFrom acc cs with
  | case1 => exact .done
  -- behind a dollar sign that no name follows yet, the text ends
  | case2 => exact .char (fun _ d hd => by cases hd) .done
  | case3 acc hne =>
    have hname : IsName acc.reverse := (hacc acc rfl).resolve_left hne
    exact .reference_ofList hname stopsName_nil .done
  | case4 cs ih => exact ih fun w hw => .inl (Option.some.inj hw).symm
  | case5 c cs hc ih =>
    exact .char (fun h => absurd h hc) (ih fun w hw => by cases hw)
  | case6 c cs hc ih =>
    -- a name starts, and nothing is a piece of it before it stops
    refine ih fun w hw => .inr ?_
    obtain rfl := Option.some.inj hw
    exact isName_singleton hc
  | case7 cs hc ih =>
    exact .char (fun _ => not_startsName_dollar) (ih fun w hw => .inl (Option.some.inj hw).symm)
  | case8 c cs hstarts hc ih =>
    -- no name follows the dollar sign: it stands for itself, as does what follows
    refine .char (fun _ d hd => ?_) (.char (fun h => absurd h hc) (ih fun w hw => by cases hw))
    obtain rfl := Option.some.inj hd
    simpa using hstarts
  | case9 acc c cs hne hc ih =>
    have hname : IsName acc.reverse := (hacc acc rfl).resolve_left hne
    have hlonger : IsName (c :: acc).reverse := by
      rw [List.reverse_cons]
      exact hname.concat hc
    -- the longer name is the one of the hypothesis, and the text is the same
    have hrest := ih fun w hw => .inr (Option.some.inj hw ▸ hlonger)
    simpa only [pending, List.reverse_cons, List.cons_append, List.append_assoc,
      List.nil_append] using hrest
  | case10 acc cs hne hc ih =>
    have hname : IsName acc.reverse := (hacc acc rfl).resolve_left hne
    exact .reference_ofList hname (stopsName_cons (by decide) cs)
      (ih fun w hw => .inl (Option.some.inj hw).symm)
  | case11 acc c cs hne hcont hc ih =>
    have hname : IsName acc.reverse := (hacc acc rfl).resolve_left hne
    exact .reference_ofList hname (stopsName_cons (by simpa using hcont) cs)
      (.char (fun h => absurd h hc) (ih fun w hw => by cases hw))

theorem consists_pieces (term : String) : Consists term.toList (pieces term) :=
  consists_piecesFrom none term.toList fun w hw => by cases hw

/-- A text has one row of pieces. -/
theorem Consists.unique (hp : Consists cs ps) (hq : Consists cs qs) : ps = qs := by
  -- at each place the two rows have the same kind of piece, and names of one length
  induction hp generalizing qs with
  | done =>
    cases hq
    rfl
  | @char c cs ps hc hrest ih =>
    cases hq with
    | char _ hrest' => rw [ih hrest']
    | reference hname _ _ => exact absurd (hc rfl) (startsName_head? hname _)
  | @reference name rest ps hname hstop hrest ih =>
    generalize htext : '$' :: (name.toList ++ rest) = text at hq
    cases hq with
    | done => cases htext
    | char hc _ =>
      obtain ⟨rfl, rfl⟩ := List.cons.inj htext
      exact absurd (hc rfl) (startsName_head? hname _)
    | @reference name' rest' _ hname' hstop' hrest' =>
      obtain ⟨hnames, rfl⟩ :=
        hname.eq_of_append_eq hname' hstop hstop' (List.cons.inj htext).2
      rw [ih hrest', String.toList_injective hnames]

/-- The references of the row are those of the text. -/
theorem Consists.refers_iff (h : Consists cs ps) : Refers cs name ↔ .reference name ∈ ps := by
  induction h with
  | done => exact iff_of_false not_refers_nil List.not_mem_nil
  | @char c cs ps hc _ ih =>
    -- a dollar sign that is a character has no name behind it
    have hnone : ¬(c = '$' ∧ StartsWith cs name) := by
      rintro ⟨hdollar, rest, rfl, hname, -⟩
      exact startsName_head? hname rest (hc hdollar)
    rw [refers_cons_iff, or_iff_right hnone, ih, List.mem_cons, or_iff_right]
    exact fun h => by cases h
  | @reference name' rest ps hname hstop _ ih =>
    -- two names that stop at the same place are the same
    have hhere : StartsWith (name'.toList ++ rest) name ↔ name = name' := by
      constructor
      · rintro ⟨rest', htext, hname', hstop'⟩
        exact String.toList_injective (hname.eq_of_append_eq hname' hstop hstop' htext).1.symm
      · rintro rfl
        exact ⟨rest, rfl, hname, hstop⟩
    rw [refers_cons_iff, hhere, refers_append_left_iff hname.dollar_not_mem, ih, List.mem_cons,
      eq_self, true_and, Piece.reference.injEq]

/-- The rows of two texts are those of the text of both, if no name goes on from the first to the
second. -/
theorem Consists.append (hp : Consists u ps) (hq : Consists v qs) (hstop : StopsName v) :
    Consists (u ++ v) (ps ++ qs) := by
  induction hp with
  | done => exact hq
  | @char c cs ps hc _ ih =>
    refine .char (fun hdollar d hd => ?_) ih
    cases cs with
    | cons e cs => exact hc hdollar d hd
    | nil =>
      -- a character with which no name can go on starts none
      cases hstarts : startsName d with
      | false => rfl
      | true =>
        have hfalse := hstop d hd
        rw [continuesName_of_startsName hstarts] at hfalse
        cases hfalse
  | @reference name rest ps hname hstop' _ ih =>
    rw [List.cons_append, List.append_assoc, List.cons_append]
    refine .reference hname (fun d hd => ?_) ih
    cases rest with
    | nil => exact hstop d hd
    | cons e rest => exact hstop' d hd

/-- What has no dollar sign consists of characters that stand for themselves. -/
theorem consists_chars (h : '$' ∉ u) (hv : Consists v qs) :
    Consists (u ++ v) (u.map .char ++ qs) := by
  induction u with
  | nil => exact hv
  | cons c u ih =>
    rw [List.mem_cons, not_or] at h
    exact .char (fun hdollar => absurd hdollar.symm h.1) (ih h.2)

/-- A character that stands for itself is one of the text. -/
theorem Consists.mem_of_char {c : Char} (h : Consists cs ps) (hc : .char c ∈ ps) : c ∈ cs := by
  induction h with
  | done => cases hc
  | char _ _ ih =>
    rcases List.mem_cons.1 hc with hhere | hc
    · rw [Piece.char.inj hhere]
      exact List.mem_cons_self
    · exact List.mem_cons_of_mem _ (ih hc)
  | reference _ _ _ ih =>
    rcases List.mem_cons.1 hc with hhere | hc
    · cases hhere
    · exact List.mem_cons_of_mem _ (List.mem_append_right _ (ih hc))

/-! ### Values of a term -/

/-- Whether a match has a part with a name, and the part is not empty. -/
def Present (captures : Captures) (name : String) : Prop :=
  ∃ s, Keyed.find? name captures = some s ∧ s ≠ ""

/-- What stands in the place of a piece. -/
def Piece.text (captures : Captures) : Piece → List Char
  | char c => [c]
  | reference name => ((Keyed.find? name captures).getD "").toList

theorem value?_of_present (h : Present captures name) :
    (Piece.reference name).value? captures = some ((Piece.reference name).text captures) := by
  obtain ⟨s, hs, hne⟩ := h
  simp only [Piece.value?, Piece.text, hs, Option.getD_some]
  rw [if_neg (by simpa using hne)]

/-- What is missing replaces nothing. -/
theorem value?_of_not_present (h : ¬Present captures name) :
    (Piece.reference name).value? captures = none := by
  simp only [Piece.value?]
  split
  · rename_i s hs
    split
    · rfl
    · rename_i hne
      exact absurd ⟨s, hs, by simpa using hne⟩ h
  · rfl

/-- If all references are present, each piece has its text. -/
theorem mapM_value?_eq_some (h : ∀ name, .reference name ∈ ps → Present captures name) :
    ps.mapM (Piece.value? captures) = some (ps.map (Piece.text captures)) := by
  induction ps with
  | nil => rfl
  | cons p ps ih =>
    have hrest := ih fun name hname => h name (List.mem_cons_of_mem _ hname)
    have hvalue : p.value? captures = some (p.text captures) := by
      cases p with
      | char c => rfl
      | reference name => exact value?_of_present (h name List.mem_cons_self)
    exact mapM_value?_cons.2 ⟨_, _, hvalue, hrest, rfl⟩

/-- If one reference is missing, the pieces have no values. -/
theorem mapM_value?_eq_none (hmem : .reference name ∈ ps) (h : ¬Present captures name) :
    ps.mapM (Piece.value? captures) = none := by
  rw [Option.eq_none_iff_forall_not_mem]
  intro ws hws
  induction ps generalizing ws with
  | nil => cases hmem
  | cons p ps ih =>
    obtain ⟨w, us, hw, hus, rfl⟩ := mapM_value?_cons.1 hws
    rcases List.mem_cons.1 hmem with rfl | hmem
    · rw [value?_of_not_present h] at hw
      cases hw
    · exact ih hmem us hus

/-- A term with a missing reference has no value. -/
theorem termValue?_eq_none {term : String} (hrefers : Refers term.toList name)
    (h : ¬Present captures name) : termValue? captures term = none := by
  have hmem := (consists_pieces term).refers_iff.1 hrefers
  rw [termValue?, substitute?, mapM_value?_eq_none hmem h]
  rfl

/-- A term whose references are present is worth what it says when they are replaced. -/
theorem termValue?_eq {term : String} (h : ∀ name, Refers term.toList name → Present captures name) :
    termValue? captures term = literalValue? ((pieces term).flatMap (Piece.text captures)) := by
  have hpresent : ∀ name, .reference name ∈ pieces term → Present captures name :=
    fun name hname => h name ((consists_pieces term).refers_iff.2 hname)
  rw [termValue?, substitute?, mapM_value?_eq_some hpresent]
  rfl

/-- A row of pieces depends on the parts to which it refers. -/
theorem mapM_value?_congr
    (h : ∀ name, .reference name ∈ ps → Keyed.find? name captures = Keyed.find? name captures') :
    ps.mapM (Piece.value? captures) = ps.mapM (Piece.value? captures') := by
  induction ps with
  | nil => rfl
  | cons p ps ih =>
    have hrest := ih fun name hname => h name (List.mem_cons_of_mem _ hname)
    have hvalue : p.value? captures = p.value? captures' := by
      cases p with
      | char c => rfl
      | reference name => rw [Piece.value?, Piece.value?, h name List.mem_cons_self]
    rw [List.mapM_cons, List.mapM_cons, hvalue, hrest]

theorem termValue?_congr {term : String}
    (h : ∀ name, Refers term.toList name → Keyed.find? name captures = Keyed.find? name captures') :
    termValue? captures term = termValue? captures' term := by
  have hpieces := mapM_value?_congr fun name hname =>
    h name ((consists_pieces term).refers_iff.2 hname)
  rw [termValue?, termValue?, substitute?, substitute?, hpieces]

/-! ### References of a template -/

theorem dollar_not_mem_of_blanks (h : ∀ c ∈ r, isBlank c = true) : '$' ∉ r := by
  intro hmem
  have hblank := h '$' hmem
  rw [dollar_not_blank] at hblank
  cases hblank

/-- Blanks at the end refer to nothing. -/
theorem refers_append_blanks_iff (hr : ∀ c ∈ r, isBlank c = true) :
    Refers (u ++ r) name ↔ Refers u name := by
  cases r with
  | nil => rw [List.append_nil]
  | cons b r =>
    have hnone : ¬Refers r name := by
      intro hrefers
      rw [← List.append_nil r, refers_append_left_iff (dollar_not_mem_of_blanks fun c hc =>
        hr c (List.mem_cons_of_mem _ hc))] at hrefers
      exact not_refers_nil hrefers
    rw [refers_append_blank_iff (hr b List.mem_cons_self), or_iff_left hnone]

theorem refers_trim_iff (cs : List Char) : Refers (trim cs) name ↔ Refers cs name := by
  obtain ⟨l, r, hcs, hl, hr⟩ := Text.exists_eq_append_trim cs
  nth_rewrite 2 [hcs]
  rw [List.append_assoc, refers_append_left_iff (dollar_not_mem_of_blanks hl),
    refers_append_blanks_iff hr]

/-- There is no dollar sign in a separator. -/
theorem IsSeparator.dollar_not_mem (h : IsSeparator s) : '$' ∉ s := by
  obtain ⟨u, w, v, rfl, hu, hw, hv⟩ := h
  obtain ⟨o, r, rfl, ⟨ho, hr⟩, -, -⟩ := hw.exists_letters
  intro hmem
  rcases List.mem_append.1 hmem with hmem | hmem
  · rcases List.mem_append.1 hmem with hmem | hmem
    · exact dollar_not_mem_of_blanks hu.2 hmem
    · rcases List.mem_pair.1 hmem with rfl | rfl
      · exact absurd ho (by decide)
      · exact absurd hr (by decide)
  · exact dollar_not_mem_of_blanks hv.2 hmem

/-- A name that starts a text lies in its first part. -/
theorem Splits.startsWith_iff {t : List Char} {ts : List (List Char)} (h : Splits cs (t :: ts)) :
    StartsWith cs name ↔ StartsWith t name := by
  -- the first part is everything, or a separator follows it, which starts with a blank
  have hfirst : cs = t ∨ ∃ b rest, isBlank b = true ∧ cs = t ++ b :: rest := by
    generalize hts : t :: ts = us at h
    induction h generalizing t ts with
    | done => exact .inl (List.cons.inj hts).1.symm
    | @cut s rest us hs _ _ _ =>
      obtain ⟨b, s, rfl⟩ := List.exists_cons_of_ne_nil hs.ne_nil
      obtain ⟨rfl, -⟩ := List.cons.inj hts
      exact .inr ⟨b, s ++ rest, hs.isBlank_head? b rfl, rfl⟩
    | @keep c cs t' us _ _ ih =>
      obtain ⟨rfl, rfl⟩ := List.cons.inj hts
      rcases ih rfl with rfl | ⟨b, rest, hb, rfl⟩
      · exact .inl rfl
      · exact .inr ⟨b, rest, hb, rfl⟩
  rcases hfirst with rfl | ⟨b, rest, hb, rfl⟩
  · rfl
  · exact startsWith_append_blank_iff hb

/-- No reference lies across a separator. -/
theorem Splits.refers_iff {ts : List (List Char)} (h : Splits cs ts) :
    Refers cs name ↔ ∃ t ∈ ts, Refers t name := by
  induction h with
  | done => simp only [List.mem_singleton, exists_eq_left]
  | cut hs _ _ ih =>
    rw [refers_append_left_iff hs.dollar_not_mem, ih]
    simp only [List.mem_cons, exists_eq_or_imp, not_refers_nil, false_or]
  | keep _ hrest ih =>
    rw [refers_cons_iff, hrest.startsWith_iff, ih]
    simp only [List.mem_cons, exists_eq_or_imp, refers_cons_iff, or_assoc]

/-- A template refers to that to which its terms refer. -/
theorem refers_template_iff (template : String) :
    Refers template.toList name ↔ ∃ term ∈ (parse template).terms, Refers term.toList name := by
  rw [← refers_trim_iff, (splits_parts template.toList).refers_iff, terms_parse]
  simp only [List.mem_map, exists_exists_and_eq_and, String.toList_ofList, refers_trim_iff]

/-- An expression depends on no capture but those to which it refers. -/
theorem resolve?_congr {template : String}
    (h : ∀ name, Refers template.toList name →
      Keyed.find? name captures = Keyed.find? name captures') :
    (parse template).resolve? captures = (parse template).resolve? captures' := by
  have hterms : ∀ term ∈ (parse template).terms,
      termValue? captures term = termValue? captures' term := by
    intro term hterm
    refine termValue?_congr fun name hname => ?_
    exact h name ((refers_template_iff template).2 ⟨term, hterm, hname⟩)
  rw [resolve?, resolve?, List.filterMap_congr hterms]

/-- All references of a term are replaced at once, or it is worth nothing; which these are is a
matter of its text.  The terms of a template are tried in order, and what it is worth depends on the
parts that its text refers to. -/
theorem resolve?_replaces (template : String) :
    (∀ term,
      (∀ ps, Consists term.toList ps ↔ ps = pieces term) ∧
      (∀ name, Refers term.toList name ↔ .reference name ∈ pieces term) ∧
      ∀ captures,
        (∀ name, Refers term.toList name → ¬Present captures name →
          termValue? captures term = none) ∧
        ((∀ name, Refers term.toList name → Present captures name) →
          termValue? captures term =
            literalValue? ((pieces term).flatMap (Piece.text captures)))) ∧
    (∀ name,
      Refers template.toList name ↔ ∃ term ∈ (parse template).terms, Refers term.toList name) ∧
    (∀ captures,
      (parse template).resolve? captures =
        (parse template).terms.findSome? (termValue? captures)) ∧
    ∀ captures captures',
      (∀ name, Refers template.toList name →
        Keyed.find? name captures = Keyed.find? name captures') →
      (parse template).resolve? captures = (parse template).resolve? captures' := by
  refine ⟨fun term => ⟨fun ps => ⟨fun h => h.unique (consists_pieces term), ?_⟩, fun name => ?_,
    fun captures => ⟨fun name => termValue?_eq_none, termValue?_eq⟩⟩,
    fun name => refers_template_iff template, resolve?_eq_findSome? _,
    fun captures captures' => resolve?_congr⟩
  · rintro rfl
    exact consists_pieces term
  · exact (consists_pieces term).refers_iff

/-- One part holds what looks like a reference and a separator; no part is put in its place. -/
theorem resolve?_replaces_nested :
    let captures := [("amt", "$x or 1"), ("amt2", "%")]
    let captures' := [("amt", "$x or 1"), ("amt2", "%"), ("x", "9")]
    let e := parse "$late or $amt$amt2 net"
    (Refers "$late".toList "late" ∧ ¬Present captures "late" ∧
      termValue? captures "$late" = none) ∧
    ((∀ name, Refers "$amt$amt2 net".toList name → Present captures name) ∧
      termValue? captures "$amt$amt2 net" = some (.text "$x or 1% net")) ∧
    (∀ name, Refers "$late or $amt$amt2 net".toList name →
      Keyed.find? name captures = Keyed.find? name captures') ∧
    e.resolve? captures = some (.text "$x or 1% net") ∧
    e.resolve? captures = e.resolve? captures' := by
  intro captures captures' e
  obtain ⟨hterm, hnames, hvalue, hcongr⟩ := resolve?_replaces "$late or $amt$amt2 net"
  obtain ⟨-, hlate, hreplace⟩ := hterm "$late"
  obtain ⟨-, hnet, hreplace'⟩ := hterm "$amt$amt2 net"
  have hpieces : pieces "$late" = [.reference "late"] := by decide +kernel
  have hpieces' : pieces "$amt$amt2 net" = [.reference "amt", .reference "amt2", .char ' ',
      .char 'n', .char 'e', .char 't'] := by decide +kernel
  have hterms : e.terms = ["$late", "$amt$amt2 net"] := by decide +kernel
  simp only [hpieces, List.mem_cons, Piece.reference.injEq, List.not_mem_nil, or_false] at hlate
  simp only [hpieces', List.mem_cons, Piece.reference.injEq, reduceCtorEq, List.not_mem_nil,
    or_false] at hnet
  -- the first term refers to what is missing, the second one to what is there
  have hmissing : ¬Present captures "late" := by
    rintro ⟨s, hs, -⟩
    cases hs
  have hpresent : ∀ name, Refers "$amt$amt2 net".toList name → Present captures name := by
    intro name hname
    rcases (hnet name).1 hname with rfl | rfl
    · exact ⟨"$x or 1", rfl, by decide⟩
    · exact ⟨"%", rfl, by decide⟩
  have hagree : ∀ name, Refers "$late or $amt$amt2 net".toList name →
      Keyed.find? name captures = Keyed.find? name captures' := by
    intro name hname
    obtain ⟨term, hmem, hterm⟩ := (hnames name).1 hname
    rw [hterms] at hmem
    rcases List.mem_pair.1 hmem with rfl | rfl
    · obtain rfl := (hlate name).1 hterm
      rfl
    · rcases (hnet name).1 hterm with rfl | rfl
      · rfl
      · rfl
  have hrefers : Refers "$late".toList "late" := (hlate "late").2 rfl
  refine ⟨⟨hrefers, hmissing, (hreplace captures).1 _ hrefers hmissing⟩, ⟨hpresent, ?_⟩, hagree, ?_,
    hcongr captures captures' hagree⟩
  · rw [(hreplace' captures).2 hpresent]
    decide +kernel
  · rw [hvalue]
    decide +kernel

end CancellationPolicy.Expression
