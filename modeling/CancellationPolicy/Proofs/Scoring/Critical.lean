import CancellationPolicy.Extraction.Basic
import CancellationPolicy.Proofs.Floating.Order
import CancellationPolicy.Proofs.Record.FirstWrite
import Mathlib.Data.Finset.Card
import Mathlib.Data.Finset.Lattice.Basic

/-!
# Trust needs critical fields

A record is trusted only if enough critical fields are present, provided that the cap lies below the
threshold of trust (`minCritical_le_of_isTrusted`).  Nothing is asked of the other settings:
weights, buckets and penalties may be of any size or sign, and may be such that the confidence is
not a number, in which case it reaches no threshold.

The fields are counted in a walk over the weighted fields.  These have different names, so the count
is at most that of the different critical fields of the record (`critical_tally_le`).
-/

namespace CancellationPolicy

theorem Record.mem_names_of_isPresent {r : Record} {p : String} (h : r.isPresent p = true) :
    p ∈ Keyed.names r.leaves := by
  by_contra hp
  rw [isPresent, get?_eq_none_iff.2 hp] at h
  cases h

namespace Confidence

/-! ### The count of critical fields -/

section Count

variable {α : Type} {settings : Settings α} {r : Record}

/-- The critical fields with a weight that a record has, in the order of their names. -/
def presentCritical (settings : Settings α) (r : Record) : List String :=
  (Keyed.names settings.weights).filter fun p => r.isPresent p && settings.critical.contains p

variable [Add α] [Mul α]

theorem critical_add (t : Tally α) (w : String × α) :
    (t.add settings r w).critical =
      t.critical + if (r.isPresent w.1 && settings.critical.contains w.1) = true then 1 else 0 := by
  unfold Tally.add
  cases r.isPresent w.1 <;> cases settings.critical.contains w.1 <;> rfl

variable [Zero α]

/-- The tally counts every weighted field once. -/
theorem critical_tally (settings : Settings α) (r : Record) :
    (tally settings r).critical = (presentCritical settings r).length := by
  -- the tally starts anywhere, so that the induction goes through
  have hfold (weights : Keyed α) (t : Tally α) :
      (weights.foldl (Tally.add settings r) t).critical = t.critical +
        ((Keyed.names weights).filter
          fun p => r.isPresent p && settings.critical.contains p).length := by
    induction weights generalizing t with
    | nil => rfl
    | cons w weights ih =>
      have hnames : Keyed.names (w :: weights) = w.1 :: Keyed.names weights := rfl
      rw [List.foldl_cons, ih, critical_add, hnames, List.filter_cons]
      split
      · rw [List.length_cons]
        exact Nat.add_right_comm _ _ _
      · rfl
  rw [tally, hfold, Nat.zero_add, presentCritical]

/-- No more critical fields are counted than there are leaves at critical fields, whether the list
of these repeats some or not. -/
theorem critical_tally_le (h : Keyed.Sorted settings.weights) (r : Record) :
    (tally settings r).critical ≤
      ((Keyed.names r.leaves).toFinset ∩ settings.critical.toFinset).card := by
  have hnodup : (presentCritical settings r).Nodup := (Keyed.nodup_names h).filter _
  rw [critical_tally, ← List.toFinset_card_of_nodup hnodup]
  apply Finset.card_le_card
  intro p hp
  obtain ⟨-, hpresent⟩ := List.mem_filter.1 (List.mem_toFinset.1 hp)
  obtain ⟨hleaf, hcritical⟩ := (Bool.and_eq_true _ _).mp hpresent
  rw [Finset.mem_inter, List.mem_toFinset, List.mem_toFinset]
  exact ⟨Record.mem_names_of_isPresent hleaf, List.contains_iff_mem.1 hcritical⟩

end Count

/-! ### The cap -/

section Cap

variable {f : Binary.Format} {settings : Settings (Binary f)}

/-- A blend reaches a threshold above the cap only with enough critical fields.  This holds of
numbers that are not in any order, too, since they reach no threshold. -/
theorem minCritical_le_of_threshold_le (hcap : settings.cap < settings.threshold)
    {x y penalties : Binary f} {n : Nat}
    (h : settings.threshold ≤ (blend settings x y n penalties).1) : settings.minCritical ≤ n := by
  rw [blend_fst] at h
  dsimp only at h
  set b := clamp (settings.alpha * x + (1 - settings.alpha) * y - penalties)
  by_contra hn
  have hfew : n < settings.minCritical := Nat.lt_of_not_le hn
  by_cases hb : settings.cap < b
  · -- the cap replaces the blend, and lies below the threshold
    rw [if_pos ⟨hfew, hb⟩] at h
    have hlt : settings.cap < settings.cap := Binary.lt_of_lt_of_le hcap h
    obtain ⟨a, ha, a', ha', haa⟩ := Binary.lt_iff.1 hlt
    obtain rfl : a = a' := Option.some.inj (ha.symm.trans ha')
    exact haa.false
  · -- the blend is not above the cap, so it does not reach the threshold either
    rw [if_neg fun hand => hb hand.2] at h
    exact hb (Binary.lt_of_lt_of_le hcap h)

/-- A record is trusted only with the critical fields that are asked for. -/
theorem minCritical_le_of_isTrusted (hcap : settings.cap < settings.threshold) {r : Record}
    {spans : List Span} {text : String} (h : (score settings r spans text).isTrusted = true) :
    settings.minCritical ≤ (tally settings r).critical :=
  minCritical_le_of_threshold_le hcap (of_decide_eq_true h)

end Cap

end Confidence

/-! ### Extractions -/

namespace Extraction

/-- Under settings whose cap lies below the threshold of trust, an extraction whose confidence makes
it usable has at least as many leaves at different critical fields as the settings ask for, whatever
the rules, the text and all other settings are.  The weights are a table with one entry to a
name. -/
theorem minCritical_le_card_of_isAccepted {settings : Confidence.Settings Single}
    (hweights : Keyed.Sorted settings.weights) (hcap : settings.cap < settings.threshold)
    (rules : RuleSet) (decision : Decision.Settings Single) (text : String)
    (h : (ofText rules settings decision text).isAccepted .confidence = true) :
    settings.minCritical ≤
      ((Keyed.names (ofText rules settings decision text).outcome.record.leaves).toFinset ∩
        settings.critical.toFinset).card :=
  le_trans (Confidence.minCritical_le_of_isTrusted hcap h)
    (Confidence.critical_tally_le hweights _)

/-- A rule that finds four critical fields at once. -/
def termsRule : RuleSet :=
  ⟨"v1", [{ id := "terms", priority := 1, source := "TERMS", pattern := .text "TERMS".toList
            fields := some [⟨"deadline.iso", ⟨["2025-01-01T12:00"]⟩⟩,
              ⟨"window.cutoff_days", ⟨["3"]⟩⟩, ⟨"fee.amount", ⟨["50"]⟩⟩,
              ⟨"fee.nights", ⟨["1"]⟩⟩] }]⟩

/-- With the default settings, a text that is accepted shows two critical fields. -/
theorem minCritical_le_card_of_isAccepted_termsRule :
    Keyed.Sorted Confidence.Settings.default.weights ∧
    Confidence.Settings.default.cap < Confidence.Settings.default.threshold ∧
    (ofText termsRule .default .default "Terms").isAccepted .confidence = true ∧
    2 ≤ ((Keyed.names (ofText termsRule .default .default "Terms").outcome.record.leaves).toFinset ∩
      Confidence.Settings.default.critical.toFinset).card := by
  have hweights : Keyed.Sorted Confidence.Settings.default.weights := Keyed.ofList_sorted _
  have hcap : Confidence.Settings.default.cap < Confidence.Settings.default.threshold := by
    decide
  have haccepted : (ofText termsRule .default .default "Terms").isAccepted .confidence = true := by
    decide +kernel
  exact ⟨hweights, hcap, haccepted,
    minCritical_le_card_of_isAccepted hweights hcap termsRule .default "Terms" haccepted⟩

end Extraction

end CancellationPolicy
