import CancellationPolicy.Proofs.Pattern.Preference
import CancellationPolicy.Proofs.Sorting
import CancellationPolicy.Scoring.Coverage
import CancellationPolicy.Text.Phrases

/-!
# Cutting phrases out of a text

`Cut rule phrases before cs ds` says what it means to cut phrases out of a text: from the left, at
every place the longest phrase that stands there is replaced by a blank, and one goes on behind it.
A phrase stands at a place if the text goes on with it and its two edges meet the characters beside
it as the rule for edges allows.  The relation determines its outcome (`Cut.unique`).

The program looks for one pattern, the alternatives of which are the phrases in the order of their
lengths, with a word boundary at every edge that is a letter, a digit or an underscore.  This is
cutting by the rule `atBoundary` (`cut_iff`).  The rule to be expected is `apart`, by which no such
edge touches another letter, digit or underscore.  The two differ because boundaries are those of
another kind of word: a power such as `²` counts as a digit, but as no part of a word, so that a
phrase that ends in it is left alone where it stands alone (`filteredLength_power`).  In texts all
characters of which are of both kinds or of neither, the two are one (`filteredLength_eq`).
-/

namespace CancellationPolicy

namespace Text

/-! ### Cutting -/

/-- Whether a character is a letter, a digit or an underscore. -/
def isWordLike (c : Char) : Bool := Unicode.isAlphanumeric c || c == '_'

/-- Says how an edge of a phrase may meet the character beside it, if there is one. -/
abbrev EdgeRule := Char → Option Char → Bool

/-- The two are not both letters, digits or underscores. -/
def apart : EdgeRule := fun c beside => !(isWordLike c && beside.any isWordLike)

/-- If the edge is a letter, a digit or an underscore, one of the two is part of a word and the
other is not. -/
def atBoundary : EdgeRule := fun c beside =>
  !isWordLike c || (Unicode.isWord c != beside.any Unicode.isWord)

/-- Whether a text, which follows the character `before`, goes on with a phrase whose edges meet the
characters beside it as a rule allows. -/
def Stands (rule : EdgeRule) (before : Option Char) (cs t : List Char) : Prop :=
  t <+: cs ∧ (∀ c ∈ t.head?, rule c before = true) ∧
    ∀ c ∈ t.getLast?, rule c (cs.drop t.length).head? = true

instance (rule : EdgeRule) (before : Option Char) (cs t : List Char) :
    Decidable (Stands rule before cs t) :=
  decidable_of_iff (t <+: cs ∧ (t.head?.all fun c => rule c before) = true ∧
      (t.getLast?.all fun c => rule c (cs.drop t.length).head?) = true)
    (by simp only [Stands, Option.all_eq_true, Option.mem_def])

/-- What becomes of a text, which follows the character `before`, when phrases are cut out of it. -/
inductive Cut (rule : EdgeRule) (phrases : List (List Char)) :
    Option Char → List Char → List Char → Prop where
  /-- The text is at its end. -/
  | done (before : Option Char) : Cut rule phrases before [] []
  /-- No phrase stands here: the character stays. -/
  | keep {before : Option Char} {c : Char} {cs ds : List Char}
      (hnone : ∀ t ∈ phrases, ¬Stands rule before (c :: cs) t)
      (hrest : Cut rule phrases (some c) cs ds) : Cut rule phrases before (c :: cs) (c :: ds)
  /-- A phrase stands here, and no longer one: a blank takes its place. -/
  | cut {before : Option Char} {cs t ds : List Char} (ht : t ∈ phrases)
      (hstands : Stands rule before cs t)
      (hlongest : ∀ u ∈ phrases, Stands rule before cs u → u.length ≤ t.length)
      (hrest : Cut rule phrases t.getLast? (cs.drop t.length) ds) :
      Cut rule phrases before cs (' ' :: ds)

variable {rule : EdgeRule} {phrases : List (List Char)} {before : Option Char}
  {c : Char} {cs ds es t u : List Char}

theorem not_stands_nil (ht : t ≠ []) : ¬Stands rule before [] t :=
  fun h => ht (List.prefix_nil.1 h.1)

/-- Of two phrases at one place that are not shorter than each other, both are the same. -/
theorem Stands.eq_of_length (ht : Stands rule before cs t) (hu : Stands rule before cs u)
    (h : t.length = u.length) : t = u :=
  (List.prefix_of_prefix_length_le ht.1 hu.1 (Nat.le_of_eq h)).eq_of_length h

/-- The outcome is determined. -/
theorem Cut.unique (hne : ∀ t ∈ phrases, t ≠ []) (hd : Cut rule phrases before cs ds)
    (he : Cut rule phrases before cs es) : ds = es := by
  induction hd generalizing es with
  | done before =>
    cases he with
    | done => rfl
    | cut ht hstands => exact absurd hstands (not_stands_nil (hne _ ht))
  | keep hnone _ ih =>
    cases he with
    | keep _ hrest => rw [ih hrest]
    | cut ht hstands => exact absurd hstands (hnone _ ht)
  | @cut before cs t ds ht hstands hlongest _ ih =>
    cases he with
    | done => exact absurd hstands (not_stands_nil (hne _ ht))
    | keep hnone => exact absurd hstands (hnone _ ht)
    | @cut _ _ u _ hu hstands' hlongest' hrest =>
      -- both are the longest phrase that stands here, so they are as long as each other
      have hlength : t.length = u.length :=
        Nat.le_antisymm (hlongest' t ht hstands) (hlongest u hu hstands')
      obtain rfl := hstands.eq_of_length hstands' hlength
      rw [ih hrest]

theorem cut_nil (rule : EdgeRule) (before : Option Char) (cs : List Char) :
    Cut rule [] before cs cs := by
  induction cs generalizing before with
  | nil => exact .done before
  | cons c cs ih => exact .keep (fun t ht => absurd ht List.not_mem_nil) (ih (some c))

/-! ### Rules for edges -/

/-- Rules that agree on the characters of a text agree on what stands there. -/
theorem Stands.congr {P : Char → Prop} {rule' : EdgeRule}
    (hrule : ∀ c o, P c → (∀ d ∈ o, P d) → rule c o = rule' c o) (hbefore : ∀ d ∈ before, P d)
    (hcs : ∀ d ∈ cs, P d) (h : Stands rule before cs t) : Stands rule' before cs t := by
  obtain ⟨hstands, hhead, hlast⟩ := h
  refine ⟨hstands, fun c hc => ?_, fun c hc => ?_⟩
  · rw [← hrule c before (hcs c (hstands.subset (List.mem_of_mem_head? hc))) hbefore]
    exact hhead c hc
  · have hnext : ∀ d ∈ (cs.drop t.length).head?, P d := fun d hd =>
      hcs d (List.mem_of_mem_drop (List.mem_of_mem_head? hd))
    rw [← hrule c _ (hcs c (hstands.subset (List.mem_of_mem_getLast? hc))) hnext]
    exact hlast c hc

/-- Rules that agree on the characters of a text cut it alike. -/
theorem Cut.congr {P : Char → Prop} {rule' : EdgeRule}
    (hrule : ∀ c o, P c → (∀ d ∈ o, P d) → rule c o = rule' c o) (hbefore : ∀ d ∈ before, P d)
    (hcs : ∀ d ∈ cs, P d) (h : Cut rule phrases before cs ds) :
    Cut rule' phrases before cs ds := by
  have hrule' : ∀ c o, P c → (∀ d ∈ o, P d) → rule' c o = rule c o :=
    fun c o hc ho => (hrule c o hc ho).symm
  induction h with
  | done before => exact .done before
  | @keep before c cs ds hnone _ ih =>
    refine .keep (fun t ht hstands => hnone t ht (hstands.congr hrule' hbefore hcs)) (ih ?_ ?_)
    · intro d hd
      obtain rfl := Option.some.inj hd
      exact hcs _ List.mem_cons_self
    · exact fun d hd => hcs d (List.mem_cons_of_mem _ hd)
  | @cut before cs t ds ht hstands hlongest _ ih =>
    refine .cut ht (hstands.congr hrule hbefore hcs)
      (fun u hu hu' => hlongest u hu (hu'.congr hrule' hbefore hcs)) (ih ?_ ?_)
    · exact fun d hd => hcs d (hstands.1.subset (List.mem_of_mem_getLast? hd))
    · exact fun d hd => hcs d (List.mem_of_mem_drop hd)

/-- The two rules agree on characters that are of both kinds or of neither. -/
theorem atBoundary_eq_apart {beside : Option Char} (hc : Unicode.isWord c = isWordLike c)
    (hbeside : ∀ d ∈ beside, Unicode.isWord d = isWordLike d) :
    atBoundary c beside = apart c beside := by
  have hany : beside.any Unicode.isWord = beside.any isWordLike := by
    cases beside with
    | none => rfl
    | some d => exact hbeside d rfl
  rw [atBoundary, apart, hc, hany]
  cases isWordLike c <;> cases beside.any isWordLike <;> rfl

/-! ### Patterns of phrases -/

open Pattern Progress

theorem ends_wordEdgeAt (o : Option Char) (s : Progress) :
    (wordEdgeAt o).ends s =
      if o.all fun c => !isWordLike c ||
        (s.place.before.any Unicode.isWord != s.place.rest.head?.any Unicode.isWord)
      then [s] else [] := by
  have hany (beside : Option Char) : Place.isWordAt false beside = beside.any Unicode.isWord := by
    cases beside <;> rfl
  cases o with
  | none => simp [wordEdgeAt, ends]
  | some c =>
    rw [wordEdgeAt, Option.all_some]
    -- beside a character of a word a boundary is asked for, beside any other one nothing is
    by_cases hc : isWordLike c = true
    · have hc' : (Unicode.isAlphanumeric c || c == '_') = true := hc
      simp only [hc', if_true, ends, Place.meets, Place.meetsWord, hany, hc, Bool.not_true,
        Bool.false_or]
    · have hc' : ¬(Unicode.isAlphanumeric c || c == '_') = true := hc
      rw [if_neg hc', ends, if_pos]
      simp [hc]

/-- The condition in front of a phrase is that of its first character. -/
theorem lead_iff {before : Option Char} (h : t <+: cs) :
    (t.head?.all fun c => !isWordLike c ||
        (before.any Unicode.isWord != cs.head?.any Unicode.isWord)) = true ↔
      ∀ c ∈ t.head?, atBoundary c before = true := by
  rw [Option.all_eq_true]
  refine forall₂_congr fun c hc => ?_
  obtain ⟨rest, rfl⟩ := h
  rw [List.head?_append, hc, Option.some_or, Option.any_some, atBoundary,
    bne_comm]

/-- The condition behind a phrase is that of its last character. -/
theorem trail_iff {before next : Option Char} :
    (t.getLast?.all fun c => !isWordLike c ||
        ((t.getLast?.or before).any Unicode.isWord != next.any Unicode.isWord)) = true ↔
      ∀ c ∈ t.getLast?, atBoundary c next = true := by
  rw [Option.all_eq_true]
  refine forall₂_congr fun c hc => ?_
  rw [hc, Option.some_or, Option.any_some, atBoundary]

/-- The pattern of a phrase matches where the phrase stands, and then the phrase. -/
theorem ends_phrasePattern (phrase : String) (s : Progress) :
    (phrasePattern phrase).ends s =
      if Stands atBoundary s.place.before s.place.rest phrase.toList
      then [s.pass phrase.toList] else [] := by
  have hlead := ends_wordEdgeAt phrase.toList.head? s
  have htext := ends_text phrase.toList s
  have htrail := ends_wordEdgeAt phrase.toList.getLast? (s.pass phrase.toList)
  rw [phrasePattern, ends_cat_of_single (ends_cat_of_single hlead htext) htrail]
  refine if_congr ?_ rfl rfl
  rw [Stands, and_comm (a := _ = true), and_assoc]
  refine and_congr_right fun hprefix => and_congr (lead_iff hprefix) ?_
  exact trail_iff

/-! ### The pattern of all phrases -/

/-- The canonical forms of phrases that are not empty. -/
def tokens (phrases : List String) : List (List Char) :=
  ((phrases.map canonical).filter (!·.isEmpty)).map String.toList

theorem ne_nil_of_mem_tokens {ps : List String} (h : t ∈ tokens ps) : t ≠ [] := by
  obtain ⟨s, hs, rfl⟩ := List.mem_map.1 h
  simpa using (List.mem_filter.1 hs).2

/-- Whether a pattern finds the longest of the phrases that stand at a place. -/
structure FindsLongest (p : Pattern) (phrases : List (List Char)) : Prop where
  /-- Where there is no match, no phrase stands. -/
  of_none {place : Place} (h : p.matchAt? place = none) :
    ∀ t ∈ phrases, ¬Stands atBoundary place.before place.rest t
  /-- A match is a phrase that stands there, and no longer one does. -/
  of_some {place : Place} {stop : Progress} (h : p.matchAt? place = some stop) :
    ∃ t ∈ phrases, Stands atBoundary place.before place.rest t ∧ stop = pass ⟨place, []⟩ t ∧
      ∀ u ∈ phrases, Stands atBoundary place.before place.rest u → u.length ≤ t.length

/-- Of two phrases at one place, the one with more bytes has more characters. -/
theorem Stands.length_le {v w : String} (hv : Stands rule before cs v.toList)
    (hw : Stands rule before cs w.toList) (h : w.utf8ByteSize ≤ v.utf8ByteSize) :
    w.toList.length ≤ v.toList.length := by
  rcases List.prefix_or_prefix_of_prefix hv.1 hw.1 with ⟨rest, hrest⟩ | hprefix
  · have hsplit : w = v ++ String.ofList rest := by
      apply String.toList_injective
      rw [String.toList_append, String.toList_ofList, hrest]
    rw [hsplit, String.utf8ByteSize_append] at h
    have hempty : (String.ofList rest).utf8ByteSize = 0 := by omega
    have hsame : w = v := by
      rw [hsplit, String.utf8ByteSize_eq_zero_iff.1 hempty, String.append_empty]
    exact Nat.le_of_eq (congrArg (fun x : String => x.toList.length) hsame)
  · exact hprefix.length_le

/-- The pattern of a phrase matches where the phrase stands. -/
theorem matchAt?_phrasePattern (phrase : String) (place : Place) :
    (phrasePattern phrase).matchAt? place =
      if Stands atBoundary place.before place.rest phrase.toList
      then some (pass ⟨place, []⟩ phrase.toList) else none := by
  rw [matchAt?, ends_phrasePattern]
  split <;> rfl

theorem findsLongest_oneOf {vs : List String}
    (hsorted : vs.Pairwise fun v w => w.utf8ByteSize ≤ v.utf8ByteSize) :
    FindsLongest (oneOf (vs.map phrasePattern)) (vs.map String.toList) := by
  constructor
  · intro place h t ht
    obtain ⟨v, hv, rfl⟩ := List.mem_map.1 ht
    rw [matchAt?_oneOf, List.findSome?_eq_none_iff] at h
    have hnone := h _ (List.mem_map_of_mem hv)
    rw [matchAt?_phrasePattern] at hnone
    simpa using hnone
  · intro place stop h
    rw [matchAt?_oneOf, List.findSome?_map, List.findSome?_eq_some_iff] at h
    obtain ⟨longer, v, others, rfl, hv, hlonger⟩ := h
    rw [Function.comp_apply, matchAt?_phrasePattern] at hv
    obtain ⟨hstands, hstop⟩ := Option.ite_none_right_eq_some.1 hv
    refine ⟨v.toList, by simp, hstands, (Option.some.inj hstop).symm, fun u hu hu' => ?_⟩
    obtain ⟨w, hw, rfl⟩ := List.mem_map.1 hu
    rcases List.mem_append.1 hw with hw | hw
    · -- those tried before do not stand here
      have hnone := hlonger w hw
      rw [Function.comp_apply, matchAt?_phrasePattern, if_pos hu'] at hnone
      cases hnone
    · rcases List.mem_cons.1 hw with rfl | hw
      · exact Nat.le_refl _
      · have hle := (List.pairwise_cons.1 (List.pairwise_append.1 hsorted).2.1).1 w hw
        exact hstands.length_le hu' hle

/-- Only which phrases there are counts. -/
theorem FindsLongest.congr {p : Pattern} {ts us : List (List Char)} (h : FindsLongest p ts)
    (hmem : ∀ t, t ∈ us ↔ t ∈ ts) : FindsLongest p us where
  of_none hnone t ht := h.of_none hnone t ((hmem t).1 ht)
  of_some hsome := by
    obtain ⟨t, ht, hstands, hstop, hlongest⟩ := h.of_some hsome
    exact ⟨t, (hmem t).2 ht, hstands, hstop, fun u hu => hlongest u ((hmem u).1 hu)⟩

/-- The pattern of all phrases finds the longest one that stands at a place. -/
theorem findsLongest_of_phrasesPattern? {ps : List String} {p : Pattern}
    (h : phrasesPattern? ps = some p) : FindsLongest p (tokens ps) := by
  have hsorted := pairwise_stableSort_decide
    (r := fun v w : String => w.utf8ByteSize ≤ v.utf8ByteSize) (fun a b => Nat.le_total _ _)
    (fun _ _ _ hab hbc => Nat.le_trans hbc hab) ((ps.map canonical).filter (!·.isEmpty))
  have hfinds := findsLongest_oneOf hsorted
  unfold phrasesPattern? at h
  dsimp only at h
  split at h
  · cases h
  · split at h
    · obtain rfl := Option.some.inj h
      refine hfinds.congr fun t => ?_
      simp only [tokens, List.mem_map, mem_stableSort]
    · cases h

/-! ### What the program cuts out -/

/-- A phrase that has been matched is passed over. -/
theorem blankOut_append (p : Pattern) (before : Option Char) (offset : Nat) (w rest : List Char) :
    blankOut p (offset + (String.ofList w).utf8ByteSize) before offset (w ++ rest) =
      blankOut p (offset + (String.ofList w).utf8ByteSize) (w.getLast?.or before)
        (offset + (String.ofList w).utf8ByteSize) rest := by
  induction w generalizing before offset with
  | nil => rfl
  | cons c w ih =>
    have hc := c.utf8Size_pos
    rw [Place.utf8ByteSize_cons, List.cons_append, blankOut, if_pos (by omega), ← Nat.add_assoc, ih,
      List.getLast?_cons, Option.some_or]
    cases w.getLast? <;> rfl

/-- Where the last match has been passed, the program goes on as phrases are cut out. -/
theorem cut_blankOut {p : Pattern} {resume offset : Nat} (hp : FindsLongest p phrases)
    (hne : ∀ t ∈ phrases, t ≠ []) (h : resume ≤ offset) :
    Cut atBoundary phrases before cs (blankOut p resume before offset cs) := by
  induction hn : cs.length using Nat.strongRecOn generalizing before resume offset cs with
  | ind n ih =>
  cases cs with
  | nil => exact .done before
  | cons c cs =>
    rw [blankOut, if_neg (Nat.not_lt.2 h)]
    cases hmatch : p.matchAt? ⟨before, offset, c :: cs⟩ with
    | none =>
      refine .keep (hp.of_none hmatch) (ih cs.length ?_ ?_ rfl)
      · rw [← hn]
        exact Nat.lt_succ_self _
      · exact Nat.le_trans h (Nat.le_add_right _ _)
    | some stop =>
      obtain ⟨t, ht, hstands, rfl, hlongest⟩ := hp.of_some hmatch
      -- the phrase is not empty, so it starts with the next character
      obtain ⟨rest, hrest⟩ := hstands.1
      obtain ⟨d, w, rfl⟩ := List.exists_cons_of_ne_nil (hne t ht)
      obtain ⟨rfl, rfl⟩ : d = c ∧ w ++ rest = cs := List.cons.inj hrest
      have hstop : Progress.offset (pass ⟨⟨before, offset, d :: (w ++ rest)⟩, []⟩ (d :: w)) =
          offset + d.utf8Size + (String.ofList w).utf8ByteSize := by
        rw [Nat.add_assoc, ← Place.utf8ByteSize_cons]
        rfl
      have hlast : (d :: w).getLast? = w.getLast?.or (some d) := by
        rw [List.getLast?_cons]
        cases w.getLast? <;> rfl
      have hd := d.utf8Size_pos
      have hbehind : (d :: (w ++ rest)).drop (d :: w).length = rest := List.drop_left
      dsimp only
      rw [hstop, if_pos (by omega), blankOut_append]
      refine .cut ht hstands hlongest ?_
      rw [hlast, hbehind]
      refine ih rest.length ?_ (Nat.le_refl _) rfl
      rw [← hn, List.length_cons, List.length_append]
      omega

/-- Whether the pattern of phrases fits a program, if there is any phrase to look for. -/
def Fits (phrases : List String) : Prop := tokens phrases = [] ∨ (phrasesPattern? phrases).isSome

instance (phrases : List String) : Decidable (Fits phrases) := inferInstanceAs (Decidable (_ ∨ _))

/-- Taking phrases out cuts them. -/
theorem cut_withoutPhrases {ps : List String} (h : Fits ps) (cs : List Char) :
    Cut atBoundary (tokens ps) none cs (withoutPhrases ps cs) := by
  cases hp : phrasesPattern? ps with
  | none =>
    have htokens : tokens ps = [] := by
      rcases h with h | h
      · exact h
      · rw [hp] at h
        cases h
    rw [withoutPhrases, hp, htokens]
    exact cut_nil atBoundary none cs
  | some p =>
    rw [withoutPhrases, hp]
    exact cut_blankOut (findsLongest_of_phrasesPattern? hp) (fun _ => ne_nil_of_mem_tokens)
      (Nat.le_refl 0)

/-- The program cuts phrases out by word boundaries at their edges. -/
theorem cut_iff {ps : List String} (h : Fits ps) :
    Cut atBoundary (tokens ps) none cs ds ↔ ds = withoutPhrases ps cs := by
  constructor
  · intro hcut
    exact hcut.unique (fun _ => ne_nil_of_mem_tokens) (cut_withoutPhrases h cs)
  · rintro rfl
    exact cut_withoutPhrases h cs

/-- In texts all characters of which are part of words if and only if they are letters, digits or
underscores, this is cutting by such characters at the edges. -/
theorem cut_apart_iff {ps : List String} (h : Fits ps)
    (hcs : ∀ c ∈ cs, Unicode.isWord c = isWordLike c) :
    Cut apart (tokens ps) none cs ds ↔ ds = withoutPhrases ps cs := by
  have hrule : ∀ c o, Unicode.isWord c = isWordLike c →
      (∀ d ∈ o, Unicode.isWord d = isWordLike d) → atBoundary c o = apart c o :=
    fun c o hc ho => atBoundary_eq_apart hc ho
  have hnone : ∀ d ∈ (none : Option Char), Unicode.isWord d = isWordLike d := by
    intro d hd
    cases hd
  rw [← cut_iff h]
  constructor
  · exact Cut.congr (fun c o hc ho => (hrule c o hc ho).symm) hnone hcs
  · exact Cut.congr hrule hnone hcs

end Text

/-! ### Filtered lengths -/

open Text

/-- The filtered length of a text is the length of what is left when phrases have been cut out of
it, ignorable characters dropped and blanks squeezed.  Phrases stand where their edges are word
boundaries; where all characters of the text are part of words if and only if they are letters,
digits or underscores, they stand where no such edge touches another such character. -/
theorem filteredLength_eq (text ignorable : String) (phrases : List String) (h : Fits phrases) :
    ∃ ds, (∀ es, Cut atBoundary (tokens phrases) none text.toList es ↔ es = ds) ∧
      ((∀ c ∈ text.toList, Unicode.isWord c = isWordLike c) →
        ∀ es, Cut apart (tokens phrases) none text.toList es ↔ es = ds) ∧
      filteredLength text ignorable phrases =
        (String.ofList (squeeze (ds.filter (!ignorable.toList.contains ·)))).utf8ByteSize :=
  ⟨withoutPhrases phrases text.toList, fun _ => cut_iff h, fun hcs _ => cut_apart_iff h hcs, rfl⟩

/-- All that is left of a fee between two phrases is the fee. -/
theorem filteredLength_eq_greeting :
    let phrases := ["please note", "Thank you"]
    let text := "PLEASE NOTE: FEE. THANK YOU!"
    Fits phrases ∧ (∀ c ∈ text.toList, Unicode.isWord c = isWordLike c) ∧
      ∃ ds, (∀ es, Cut atBoundary (tokens phrases) none text.toList es ↔ es = ds) ∧
        (∀ es, Cut apart (tokens phrases) none text.toList es ↔ es = ds) ∧
        (String.ofList (squeeze (ds.filter (!":.!".toList.contains ·)))).utf8ByteSize = 3 := by
  intro phrases text
  have hfits : Fits phrases := by decide +kernel
  have hall : (text.toList.all fun c => Unicode.isWord c == isWordLike c) = true := by
    decide +kernel
  have htext : ∀ c ∈ text.toList, Unicode.isWord c = isWordLike c := fun c hc =>
    beq_iff_eq.1 (List.all_eq_true.1 hall c hc)
  have hlength : filteredLength text ":.!" phrases = 3 := by decide +kernel
  obtain ⟨ds, hboundary, hapart, hds⟩ := filteredLength_eq text ":.!" phrases hfits
  exact ⟨hfits, htext, ds, hboundary, hapart htext, hds ▸ hlength⟩

/-- A phrase that ends in a power stays, although it stands alone: cutting it out would leave a text
of three bytes. -/
theorem filteredLength_power :
    Fits ["m²"] ∧ filteredLength "PER M²" "" ["m²"] = 7 ∧
      (∀ es, Cut apart (tokens ["m²"]) none "PER M²".toList es ↔ es = "PER  ".toList) ∧
      (String.ofList
        (squeeze ("PER  ".toList.filter (!"".toList.contains ·)))).utf8ByteSize = 3 := by
  have htokens : tokens ["m²"] = [['M', '²']] := by decide +kernel
  have htext : "PER M²".toList = ['P', 'E', 'R', ' ', 'M', '²'] := by decide +kernel
  have hrest : "PER  ".toList = ['P', 'E', 'R', ' ', ' '] := by decide +kernel
  -- the phrase is cut out behind the blank, as it stands alone there
  have hcut : Cut apart [['M', '²']] none ['P', 'E', 'R', ' ', 'M', '²']
      ['P', 'E', 'R', ' ', ' '] := by
    have hphrase : Cut apart [['M', '²']] (some ' ') ['M', '²'] [' '] :=
      .cut (t := ['M', '²']) (by decide) (by decide +kernel) (by decide +kernel) (.done _)
    exact .keep (by decide +kernel) (.keep (by decide +kernel) (.keep (by decide +kernel)
      (.keep (by decide +kernel) hphrase)))
  refine ⟨by decide +kernel, by decide +kernel, fun es => ?_, by decide +kernel⟩
  rw [htokens, htext, hrest]
  constructor
  · intro hes
    exact hes.unique (by decide) hcut
  · rintro rfl
    exact hcut

end CancellationPolicy
