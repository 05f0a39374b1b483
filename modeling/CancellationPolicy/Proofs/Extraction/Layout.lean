import CancellationPolicy.Extraction.Basic
import CancellationPolicy.Proofs.Unicode.Uppercase
import Mathlib.Data.List.Chain

/-!
# Layout and case do not matter

The canonical form of a text keeps the words in upper case and nothing else: two texts have the same
canonical form iff they have the same words in upper case (`canonical_eq_canonical_iff`).  It is
laid out in one way only (`isSqueezed_canonical`) and is its own canonical form
(`canonical_canonical`).  Rules are applied to it and scores are computed from it, so texts of one
canonical form have the same extraction, except that each has its own text (`extraction_layout`).
-/

namespace CancellationPolicy

namespace Text

/-! ### Layout -/

/-- Whether the only blanks of a text are single spaces between other characters. -/
structure IsSqueezed (cs : List Char) : Prop where
  /-- All blanks are spaces. -/
  eq_space : ∀ c ∈ cs, isBlank c = true → c = ' '
  /-- No blank comes first. -/
  head : ∀ c ∈ cs.head?, isBlank c = false
  /-- No blank comes last. -/
  last : ∀ c ∈ cs.getLast?, isBlank c = false
  /-- Of two neighbouring characters, one is no blank. -/
  apart : cs.IsChain fun c d => isBlank c = false ∨ isBlank d = false

theorem isSqueezed_of_no_blank {w : List Char} (h : ∀ c ∈ w, isBlank c = false) :
    IsSqueezed w where
  eq_space c hc hblank := absurd hblank (by simp [h c hc])
  head c hc := h c (List.mem_of_mem_head? hc)
  last c hc := h c (List.mem_of_mem_getLast? hc)
  apart := by
    refine List.Pairwise.isChain (List.pairwise_iff_forall_sublist.2 fun hsub => ?_)
    exact .inl (h _ (hsub.subset (by simp)))

/-- A word may be put in front of a text, with a space between them. -/
theorem IsSqueezed.cons_word {w cs : List Char} (hw : w ≠ []) (hblank : ∀ c ∈ w, isBlank c = false)
    (hcs : cs ≠ []) (h : IsSqueezed cs) : IsSqueezed (w ++ ' ' :: cs) := by
  have hword := isSqueezed_of_no_blank hblank
  refine ⟨fun c hc hcblank => ?_, fun c hc => ?_, fun c hc => ?_, ?_⟩
  · rcases List.mem_append.1 hc with hc | hc
    · exact hword.eq_space c hc hcblank
    · rcases List.mem_cons.1 hc with rfl | hc
      · rfl
      · exact h.eq_space c hc hcblank
  · rw [List.head?_append_of_ne_nil _ hw] at hc
    exact hword.head c hc
  · rw [List.getLast?_append_of_ne_nil _ (List.cons_ne_nil _ _), List.getLast?_cons,
      Option.mem_some_iff] at hc
    -- the text is not empty, so the space is not last
    have hlast := List.getLast?_eq_some_getLast hcs
    rw [hlast, Option.getD_some] at hc
    exact h.last c (hc ▸ hlast)
  · refine List.isChain_append.2 ⟨hword.apart, ?_, fun c hc _ _ => .inl (hword.last c hc)⟩
    exact List.isChain_cons.2 ⟨fun d hd => .inr (h.head d hd), h.apart⟩

theorem isSqueezed_intercalate {ws : List (List Char)}
    (h : ∀ w ∈ ws, w ≠ [] ∧ ∀ c ∈ w, isBlank c = false) :
    IsSqueezed ([' '].intercalate ws) ∧ (ws ≠ [] → [' '].intercalate ws ≠ []) := by
  induction ws with
  | nil =>
    have hblank : ∀ c ∈ ([] : List Char), isBlank c = false := fun _ hc => absurd hc List.not_mem_nil
    exact ⟨isSqueezed_of_no_blank hblank, fun h => absurd rfl h⟩
  | cons w ws ih =>
    obtain ⟨hw, hblank⟩ := h w List.mem_cons_self
    cases ws with
    | nil =>
      rw [List.intercalate_singleton]
      exact ⟨isSqueezed_of_no_blank hblank, fun _ => hw⟩
    | cons v ws =>
      obtain ⟨hsqueezed, hne⟩ := ih fun u hu => h u (List.mem_cons_of_mem _ hu)
      rw [List.intercalate_cons_cons, List.append_assoc, List.singleton_append]
      refine ⟨hsqueezed.cons_word hw hblank (hne (List.cons_ne_nil _ _)), fun _ => ?_⟩
      exact List.append_ne_nil_of_left_ne_nil hw _

/-! ### Words in upper case -/

theorem upper_upper (cs : List Char) : upper (upper cs) = upper cs := by
  rw [upper, upper, List.flatMap_assoc]
  refine List.flatMap_congr fun c _ => ?_
  -- upper case leaves every character of an upper case alone
  have hself := List.flatMap_congr (l := Unicode.uppercase c) (g := fun d => [d])
    fun d hd => Unicode.uppercase_of_mem_uppercase hd
  rw [hself, List.flatMap_singleton']

theorem words_canonical_eq (text : String) :
    words (canonical text).toList = (words text.toList).map upper :=
  words_canonical text (fun c _ => Unicode.uppercase_ne_nil c)
    fun _ hc _ hd => Unicode.isBlank_of_mem_uppercase hd hc

end Text

theorem canonical_eq_canonical_iff {x y : String} :
    canonical x = canonical y ↔
      (Text.words x.toList).map Text.upper = (Text.words y.toList).map Text.upper := by
  constructor
  · intro h
    rw [← Text.words_canonical_eq, ← Text.words_canonical_eq, h]
  · intro h
    rw [← String.toList_inj, Text.toList_canonical, Text.toList_canonical, h]

theorem canonical_canonical (text : String) : canonical (canonical text) = canonical text := by
  have hupper : Text.upper ∘ Text.upper = Text.upper := funext Text.upper_upper
  rw [canonical_eq_canonical_iff, Text.words_canonical_eq, List.map_map, hupper]

theorem isSqueezed_canonical (text : String) : Text.IsSqueezed (canonical text).toList := by
  have hwords : (canonical text).toList =
      [' '].intercalate (Text.words (canonical text).toList) := by
    rw [Text.words_canonical_eq, Text.toList_canonical]
  rw [hwords]
  exact (Text.isSqueezed_intercalate fun w hw =>
    ⟨Text.ne_nil_of_mem_words hw, fun c hc => Text.not_isBlank_of_mem_words hw hc⟩).1

example : canonical "  Straße\r\n 50%" = canonical "STRASSE 50%" := by decide +kernel

/-! ### Extractions -/

/-- An extraction depends on the canonical form of the text alone, apart from the text itself. -/
theorem extraction_of_canonical_eq {x y : String} (h : canonical x = canonical y) (rules : RuleSet)
    (confidence : Confidence.Settings Single) (decision : Decision.Settings Single) :
    Extraction.ofText rules confidence decision x =
      { Extraction.ofText rules confidence decision y with text := x } := by
  simp only [Extraction.ofText, h]

/-- The canonical form of a text is its words in upper case, joined by single spaces, without blanks
anywhere else, and it is its own canonical form.  Texts have the same canonical form iff their words
in upper case are the same, and iff all rules and settings lead to extractions from them that differ
in the text alone.  So do those from a text and from its canonical form. -/
theorem extraction_layout (x y : String) :
    (canonical x = canonical y ↔
      (Text.words x.toList).map Text.upper = (Text.words y.toList).map Text.upper) ∧
    (canonical x).toList = [' '].intercalate ((Text.words x.toList).map Text.upper) ∧
    Text.IsSqueezed (canonical x).toList ∧
    canonical (canonical x) = canonical x ∧
    ∀ rules confidence decision,
      (canonical x = canonical y ↔
        Extraction.ofText rules confidence decision x =
          { Extraction.ofText rules confidence decision y with text := x }) ∧
      Extraction.ofText rules confidence decision (canonical x) =
        { Extraction.ofText rules confidence decision x with text := canonical x } := by
  refine ⟨canonical_eq_canonical_iff, Text.toList_canonical x, isSqueezed_canonical x,
    canonical_canonical x, fun rules confidence decision => ⟨⟨fun h => ?_, fun h => ?_⟩, ?_⟩⟩
  · exact extraction_of_canonical_eq h rules confidence decision
  · exact congrArg Extraction.canonical h
  · exact extraction_of_canonical_eq (canonical_canonical x) rules confidence decision

end CancellationPolicy
