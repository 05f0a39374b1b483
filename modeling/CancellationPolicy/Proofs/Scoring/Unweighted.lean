import CancellationPolicy.Proofs.Scoring.Critical
import CancellationPolicy.Settings.Document

/-!
# Critical fields without a weight

Which fields are critical and what fields weigh are two tables that need not go together, and the
critical fields of a record are counted in a walk over the second one.  The count is not changed by
entries of the first table that are repeated, nor by the size of weights, but falls short of the
critical fields of the record by those that have no weight (`critical_tally_add_card`).  It is their
number exactly if all of them have one (`critical_score_eq_card_iff`).
-/

namespace CancellationPolicy.Confidence

variable {α : Type} {settings : Settings α} {r : Record}

/-! ### Critical fields of a record -/

/-- The different critical fields that a record has. -/
def criticalOf (settings : Settings α) (r : Record) : Finset String :=
  settings.critical.toFinset.filter fun p => r.isPresent p = true

/-- The critical fields of a record that have no weight. -/
def unweightedOf (settings : Settings α) (r : Record) : Finset String :=
  (criticalOf settings r).filter (· ∉ Keyed.names settings.weights)

theorem mem_criticalOf {p : String} :
    p ∈ criticalOf settings r ↔ p ∈ settings.critical ∧ r.isPresent p = true := by
  unfold criticalOf
  rw [Finset.mem_filter, List.mem_toFinset]

/-- The fields that are counted are the critical ones that have a weight. -/
theorem toFinset_presentCritical (settings : Settings α) (r : Record) :
    (presentCritical settings r).toFinset =
      (criticalOf settings r).filter (· ∈ Keyed.names settings.weights) := by
  ext p
  rw [List.mem_toFinset, presentCritical, List.mem_filter, Bool.and_eq_true,
    List.contains_iff_mem, Finset.mem_filter, mem_criticalOf]
  constructor
  · rintro ⟨hweighted, hpresent, hcritical⟩
    exact ⟨⟨hcritical, hpresent⟩, hweighted⟩
  · rintro ⟨⟨hcritical, hpresent⟩, hweighted⟩
    exact ⟨hweighted, hpresent, hcritical⟩

/-- No critical field is left out exactly if each one that is present has a weight. -/
theorem unweightedOf_eq_empty_iff : unweightedOf settings r = ∅ ↔
    ∀ p ∈ settings.critical, r.isPresent p = true → p ∈ Keyed.names settings.weights := by
  unfold unweightedOf
  rw [Finset.filter_eq_empty_iff]
  constructor
  · intro h p hcritical hpresent
    exact not_not.1 (h (mem_criticalOf.2 ⟨hcritical, hpresent⟩))
  · intro h p hp
    obtain ⟨hcritical, hpresent⟩ := mem_criticalOf.1 hp
    exact not_not.2 (h p hcritical hpresent)

/-! ### The count -/

/-- The critical fields of a record are those that are counted and those without a weight. -/
theorem critical_tally_add_card [Zero α] [Add α] [Mul α] (h : Keyed.Sorted settings.weights)
    (r : Record) :
    (tally settings r).critical + (unweightedOf settings r).card =
      (criticalOf settings r).card := by
  -- the walk over the weights meets no name twice
  have hnodup : (presentCritical settings r).Nodup := (Keyed.nodup_names h).filter _
  rw [critical_tally, ← List.toFinset_card_of_nodup hnodup, toFinset_presentCritical,
    unweightedOf, Finset.card_filter_add_card_filter_not]

section Score

variable [Zero α] [One α] [Add α] [Sub α] [Mul α] [Div α] [NatCast α] [LT α] [DecidableLT α]
  [LE α] [DecidableLE α] [Ord α]

/-- **The count of critical fields leaves out those without a weight.**  Together with these it is
the number of the different critical fields that the record has, so it is this number if and only if
each of them has a weight, whatever the weights are.  The weights are a table with one entry to a
name. -/
theorem critical_score_eq_card_iff (h : Keyed.Sorted settings.weights) (r : Record)
    (spans : List Span) (text : String) :
    (score settings r spans text).critical + (unweightedOf settings r).card =
      (criticalOf settings r).card ∧
    ((score settings r spans text).critical = (criticalOf settings r).card ↔
      ∀ p ∈ settings.critical, r.isPresent p = true → p ∈ Keyed.names settings.weights) := by
  have hcount : (score settings r spans text).critical + (unweightedOf settings r).card =
      (criticalOf settings r).card := critical_tally_add_card h r
  refine ⟨hcount, ?_⟩
  -- the count is the whole number if nothing is left to be added to it
  rw [← unweightedOf_eq_empty_iff, ← Finset.card_eq_zero]
  omega

end Score

/-- Two critical fields of which one has a weight, and is listed twice. -/
def halfWeighted : Settings Single :=
  { Settings.default with critical := ["fee.nights", "fee.nights", "policy.cancellable"] }

/-- A record with both of them. -/
def twoCritical : Record :=
  Record.new.writeAll [("fee.nights", .text "1"), ("policy.cancellable", .text "false")]

/-- With a weight for one of two critical fields, one is counted. -/
theorem critical_score_eq_card_iff_halfWeighted :
    Keyed.Sorted halfWeighted.weights ∧
    (score halfWeighted twoCritical [] "").critical + 1 = 2 ∧
    (score halfWeighted twoCritical [] "").critical ≠
      (criticalOf halfWeighted twoCritical).card := by
  have hweights : Keyed.Sorted halfWeighted.weights := Keyed.ofList_sorted _
  obtain ⟨hcount, hiff⟩ := critical_score_eq_card_iff hweights twoCritical [] ""
  have hunweighted : (unweightedOf halfWeighted twoCritical).card = 1 := by decide +kernel
  have hcritical : (criticalOf halfWeighted twoCritical).card = 2 := by decide +kernel
  rw [hunweighted, hcritical] at hcount
  refine ⟨hweights, hcount, ?_⟩
  intro heq
  have hweighted := hiff.1 heq "policy.cancellable" (by decide) (by decide +kernel)
  exact absurd hweighted (by decide +kernel)

/-- A document of settings whose only critical field has no weight. -/
def unweightedDocument : String :=
  "\x7b\"scoring\": \x7b\"confidence\": \x7b\"critical_fields\": [\"policy.cancellable\"]\x7d\x7d\x7d"

/-- Under settings that were read without fault a record has the only critical field, but none is
counted. -/
theorem critical_score_eq_zero :
    ∃ s, CancellationPolicy.Settings.read unweightedDocument = .ok s ∧
      criticalOf s.confidence (Record.new.write "policy.cancellable" (.text "false")) =
        {"policy.cancellable"} ∧
      (score s.confidence (Record.new.write "policy.cancellable" (.text "false")) []
        "NO REFUND").critical = 0 := by
  refine ⟨{ CancellationPolicy.Settings.default with
    confidence := { Settings.default with critical := ["policy.cancellable"] } }, ?_⟩
  decide +kernel

end CancellationPolicy.Confidence
