import CancellationPolicy.Proofs.Extraction.Layout
import CancellationPolicy.Proofs.Scoring.Coverage
import CancellationPolicy.Proofs.Text.Phrases
import CancellationPolicy.Proofs.Text.Squeeze

/-!
# What the filtered length depends on

The phrases that are passed over are a set.  Which of them stand at a place does not depend on the
order in which they are given, and of those that do the longest is cut out, of which there is one
(`Cut.of_mem_iff`, `Cut.unique`).  So lists with the same canonical phrases give every text the same
filtered length, and lists that differ only in order, repetition, case, blanks and blank entries
have the same canonical phrases (`filteredLength_congr`).

Filtering can only shorten a text: a phrase has at least the byte of the space that replaces it,
ignorable characters are taken out, and squeezing takes out blanks.  The coverage of the filtered
text is therefore at least that of the whole text (`coverage_le_filtered`).
-/

namespace CancellationPolicy

namespace Text

variable {rule : EdgeRule} {phrases phrases' : List (List Char)} {before : Option Char}
  {cs ds t : List Char} {ps qs : List String}

/-! ### The set of phrases -/

/-- Whether every phrase of a list that is not blank is one of another list, up to case and blanks
around and between its words. -/
def Among (ps qs : List String) : Prop :=
  ∀ p ∈ ps, words p.toList ≠ [] →
    ∃ q ∈ qs, (words p.toList).map upper = (words q.toList).map upper

/-- A phrase is blank exactly if it has no words. -/
theorem canonical_eq_empty_iff {p : String} : canonical p = "" ↔ words p.toList = [] := by
  constructor
  · intro h
    have hwords := words_canonical_eq p
    rw [h] at hwords
    exact List.map_eq_nil_iff.1 hwords.symm
  · intro h
    apply String.toList_injective
    rw [toList_canonical, h]
    rfl

/-- The tokens are the canonical forms of the phrases that have words. -/
theorem mem_tokens : t ∈ tokens ps ↔ ∃ p ∈ ps, words p.toList ≠ [] ∧ (canonical p).toList = t := by
  have hempty (p : String) : (!(canonical p).isEmpty) = true ↔ words p.toList ≠ [] := by
    rw [Ne, ← canonical_eq_empty_iff, Bool.not_eq_true', String.isEmpty_eq_false_iff]
  simp only [tokens, List.mem_map, List.mem_filter]
  constructor
  · rintro ⟨_, ⟨⟨p, hp, rfl⟩, hne⟩, rfl⟩
    exact ⟨p, hp, (hempty p).1 hne, rfl⟩
  · rintro ⟨p, hp, hne, rfl⟩
    exact ⟨canonical p, ⟨⟨p, hp, rfl⟩, (hempty p).2 hne⟩, rfl⟩

theorem tokens_subset_iff : tokens ps ⊆ tokens qs ↔ Among ps qs := by
  constructor
  · intro h p hp hne
    obtain ⟨q, hq, -, hcanonical⟩ := mem_tokens.1 (h (mem_tokens.2 ⟨p, hp, hne, rfl⟩))
    exact ⟨q, hq, canonical_eq_canonical_iff.1 (String.toList_injective hcanonical.symm)⟩
  · intro h t ht
    obtain ⟨p, hp, hne, rfl⟩ := mem_tokens.1 ht
    obtain ⟨q, hq, hwords⟩ := h p hp hne
    have hne' : words q.toList ≠ [] := by
      intro hnil
      rw [hnil, List.map_nil] at hwords
      exact hne (List.map_eq_nil_iff.1 hwords)
    rw [canonical_eq_canonical_iff.2 hwords]
    exact mem_tokens.2 ⟨q, hq, hne', rfl⟩

/-- Lists have the same tokens exactly if each one's phrases are among the other's. -/
theorem tokens_eq_iff :
    (∀ t, t ∈ tokens ps ↔ t ∈ tokens qs) ↔ Among ps qs ∧ Among qs ps := by
  rw [← tokens_subset_iff, ← tokens_subset_iff]
  constructor
  · intro h
    exact ⟨fun t => (h t).1, fun t => (h t).2⟩
  · rintro ⟨hpq, hqp⟩ t
    exact ⟨fun ht => hpq ht, fun ht => hqp ht⟩

/-- What is cut out depends on the phrases as a set only. -/
theorem Cut.of_mem_iff (hmem : ∀ t, t ∈ phrases ↔ t ∈ phrases')
    (h : Cut rule phrases before cs ds) : Cut rule phrases' before cs ds := by
  induction h with
  | done before => exact .done before
  | keep hnone _ ih => exact .keep (fun t ht => hnone t ((hmem t).2 ht)) ih
  | cut ht hstands hlongest _ ih =>
    exact .cut ((hmem _).1 ht) hstands (fun u hu => hlongest u ((hmem u).2 hu)) ih

theorem withoutPhrases_congr (hps : Fits ps) (hqs : Fits qs)
    (h : ∀ t, t ∈ tokens ps ↔ t ∈ tokens qs) (cs : List Char) :
    withoutPhrases ps cs = withoutPhrases qs cs :=
  (cut_iff hqs).1 ((cut_withoutPhrases hps cs).of_mem_iff h)

/-! ### Sizes -/

/-- A blank is no longer than the character that it replaces. -/
theorem utf8ByteSize_blankOut_le (p : Pattern) (resume : Nat) (before : Option Char) (offset : Nat)
    (cs : List Char) :
    (String.ofList (blankOut p resume before offset cs)).utf8ByteSize ≤
      (String.ofList cs).utf8ByteSize := by
  have hspace : ' '.utf8Size = 1 := rfl
  fun_induction blankOut p resume before offset cs with
  | case1 => exact Nat.le_refl _
  -- a character of a phrase is dropped, the phrase leaves one space, and any other character stays
  | case2 _ _ _ c cs _ ih =>
    rw [Place.utf8ByteSize_cons]
    omega
  | case3 _ _ _ c cs _ _ _ _ ih =>
    have hc := c.utf8Size_pos
    rw [Place.utf8ByteSize_cons, Place.utf8ByteSize_cons]
    omega
  | case4 _ _ _ c cs _ _ _ _ ih =>
    rw [Place.utf8ByteSize_cons, Place.utf8ByteSize_cons]
    omega
  | case5 _ _ _ c cs _ _ ih =>
    rw [Place.utf8ByteSize_cons, Place.utf8ByteSize_cons]
    omega

/-- Taking phrases out makes a text no longer. -/
theorem utf8ByteSize_withoutPhrases_le (ps : List String) (cs : List Char) :
    (String.ofList (withoutPhrases ps cs)).utf8ByteSize ≤ (String.ofList cs).utf8ByteSize := by
  rw [withoutPhrases]
  split
  · exact utf8ByteSize_blankOut_le _ 0 none 0 cs
  · exact Nat.le_refl _

end Text

/-! ### Filtered lengths -/

open Text

/-- Lists of phrases have the same canonical phrases, blank ones apart, iff each phrase of one is in
the other up to case and blanks; order and repetition do not count.  Then, if their patterns fit,
all texts have the same filtered length by both. -/
theorem filteredLength_congr {ps qs : List String} (hps : Fits ps) (hqs : Fits qs) :
    ((∀ t, t ∈ tokens ps ↔ t ∈ tokens qs) ↔ Among ps qs ∧ Among qs ps) ∧
      ((∀ t, t ∈ tokens ps ↔ t ∈ tokens qs) → ∀ text ignorable,
        filteredLength text ignorable ps = filteredLength text ignorable qs) := by
  refine ⟨tokens_eq_iff, fun h text ignorable => ?_⟩
  have hcut := withoutPhrases_congr hps hqs h text.toList
  rw [filteredLength, filteredLength, hcut]

/-- Phrases that are prefixes of one another, given in another order, another case, with other
blanks and twice. -/
theorem filteredLength_congr_thanks :
    let ps := ["please note", "Please note that", "THANK YOU"]
    let qs := ["Thank\tyou", "", "PLEASE  NOTE THAT", "thank you ", "Please Note"]
    Fits ps ∧ Fits qs ∧ (∀ t, t ∈ tokens ps ↔ t ∈ tokens qs) ∧ Among ps qs ∧
      filteredLength "PLEASE NOTE THAT: NO FEE. THANK YOU!" ".:!" ps =
        filteredLength "PLEASE NOTE THAT: NO FEE. THANK YOU!" ".:!" qs := by
  intro ps qs
  have hps : Fits ps := by decide +kernel
  have hqs : Fits qs := by decide +kernel
  have hsubset : tokens ps ⊆ tokens qs := by decide +kernel
  have hsupset : tokens qs ⊆ tokens ps := by decide +kernel
  have hmem : ∀ t, t ∈ tokens ps ↔ t ∈ tokens qs :=
    fun t => ⟨fun ht => hsubset ht, fun ht => hsupset ht⟩
  obtain ⟨hamong, hlength⟩ := filteredLength_congr hps hqs
  exact ⟨hps, hqs, hmem, (hamong.1 hmem).1, hlength hmem _ _⟩

/-- The filtered length is at most that of the text. -/
theorem filteredLength_le (text ignorable : String) (phrases : List String) :
    filteredLength text ignorable phrases ≤ text.utf8ByteSize := by
  have hcut := utf8ByteSize_withoutPhrases_le phrases text.toList
  have hkept := utf8ByteSize_squeeze_le_of_sublist
    (List.filter_sublist (p := (!ignorable.toList.contains ·))
      (l := withoutPhrases phrases text.toList))
  have hsqueeze := utf8ByteSize_squeeze_le (withoutPhrases phrases text.toList)
  rw [String.ofList_toList] at hcut
  exact Nat.le_trans hkept (Nat.le_trans hsqueeze hcut)

/-- More ignorable characters leave less of a text. -/
theorem filteredLength_le_of_subset (text : String) {ignorable more : String}
    (h : ignorable.toList ⊆ more.toList) (phrases : List String) :
    filteredLength text more phrases ≤ filteredLength text ignorable phrases := by
  refine utf8ByteSize_squeeze_le_of_sublist (List.monotone_filter_right _ fun c hc => ?_)
  simp only [Bool.not_eq_true', List.contains_eq_mem, decide_eq_false_iff_not] at hc ⊢
  exact fun hignorable => hc (h hignorable)

/-- The filtered length is at most the length of the text, and further ignorable characters do not
raise it.  So for all settings of both scores, the coverage that a decision goes by is at least the
one that the confidence is computed from, if anything is left of the text; the length of the text is
a number of 64 bits. -/
theorem coverage_le_filtered (text : String) (phrases : List String) :
    (∀ ignorable, filteredLength text ignorable phrases ≤ text.utf8ByteSize) ∧
    (∀ ignorable more : String, ignorable.toList ⊆ more.toList →
      filteredLength text more phrases ≤ filteredLength text ignorable phrases) ∧
    (text.utf8ByteSize < 2 ^ 64 → ∀ (r : Record) (spans : List Span)
      (confidence : Confidence.Settings Single) (decision : Decision.Settings Single),
      filteredLength text decision.ignorable decision.phrases ≠ 0 →
        (Confidence.score confidence r spans text).coverage ≤
          (Decision.ofRecord decision r spans text).coverage) := by
  refine ⟨fun ignorable => filteredLength_le text ignorable phrases,
    fun ignorable more h => filteredLength_le_of_subset text h phrases, ?_⟩
  intro hsize r spans confidence decision hne
  show (coverage spans text.utf8ByteSize : Single) ≤
    coverage spans (filteredLength text decision.ignorable decision.phrases)
  exact coverage_le_coverage_of_le spans hne (filteredLength_le text _ _) hsize.le

/-- A third of a text is all that is left of it without thanks and a full stop. -/
theorem coverage_le_filtered_noRefund :
    let text := "NO REFUND.  THANK YOU, DEAR GUEST"
    let decision : Decision.Settings Single := ⟨0, 0, ".", ["thank you", "dear guest"]⟩
    text.utf8ByteSize < 2 ^ 64 ∧ filteredLength text ".," decision.phrases = 9 ∧
      ".".toList ⊆ ".,".toList ∧
      filteredLength text ".," decision.phrases ≤ filteredLength text "." decision.phrases ∧
      filteredLength text decision.ignorable decision.phrases ≠ 0 ∧
      (Confidence.score Confidence.Settings.default Record.new [.between 0 9] text).coverage ≤
        (Decision.ofRecord decision Record.new [.between 0 9] text).coverage := by
  intro text decision
  have hsize : text.utf8ByteSize < 2 ^ 64 := by decide +kernel
  -- of the text, `NO REFUND` is left
  have hleft : filteredLength text ".," decision.phrases = 9 := by decide +kernel
  have hsubset : ".".toList ⊆ ".,".toList := by decide +kernel
  have hne : filteredLength text decision.ignorable decision.phrases ≠ 0 := by decide +kernel
  obtain ⟨-, hmore, hcoverage⟩ := coverage_le_filtered text decision.phrases
  exact ⟨hsize, hleft, hsubset, hmore "." ".," hsubset, hne,
    hcoverage hsize Record.new [.between 0 9] Confidence.Settings.default decision hne⟩

end CancellationPolicy
