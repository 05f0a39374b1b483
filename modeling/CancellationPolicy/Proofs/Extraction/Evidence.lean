import CancellationPolicy.Proofs.Extraction.Replay
import CancellationPolicy.Proofs.Record.FirstWrite
import CancellationPolicy.Proofs.Rule.Order
import CancellationPolicy.Proofs.Scoring.Coverage
import CancellationPolicy.Proofs.Scoring.Decision

/-!
# Further rules only add evidence

Rules that are given behind others and have no higher priorities are applied last
(`applyAll_append_eq_add`).  All that they do to the outcome is to add hits at the end and to write
further values, so nothing that was found before is lost (`Outcome.within_add`), and a decision that
accepts the outcome without them accepts it with them (`applyAll_append`).

A covered length that is too great for a number of 32 bits would be infinite, and a coverage might
then have no value.  The length of a text is a number of 64 bits, which is far from that.
-/

namespace CancellationPolicy

/-- Whether an outcome has all that another one has, and possibly more behind it. -/
structure Outcome.Within (o o' : Outcome) : Prop where
  /-- The hits come first. -/
  hits : o.hits <+: o'.hits
  /-- The spans come first. -/
  spans : o.spans <+: o'.spans
  /-- The leaves stay, with their values. -/
  leaves : o.record.leaves ⊆ o'.record.leaves
  /-- The paths that are flagged stay flagged. -/
  malformed : o.record.malformed ⊆ o'.record.malformed

theorem Outcome.within_add (o : Outcome) (values : List (String × Value)) (hits : List Hit) :
    o.Within (o.add values hits) where
  hits := List.prefix_append _ _
  spans := List.prefix_append _ _
  leaves := Record.leaves_subset_writeAll _ _
  malformed := Record.malformed_subset_writeAll _ _

theorem Outcome.keeps_add (o : Outcome) (values : List (String × Value)) (hits : List Hit) :
    (o.add values hits).record.Keeps o.record :=
  fun _ _ h => Record.get?_writeAll_of_eq_some h values

/-! ### Decisions -/

/-- The decision on what rules have found in a text. -/
def Outcome.decision (settings : Decision.Settings Single) (text : String) (o : Outcome) :
    Decision Single :=
  .ofRecord settings o.record o.spans text

/-- Hits that are added do not lower the coverage, as long as no span goes behind a length of 64
bits. -/
theorem Outcome.coverage_le_add {o : Outcome} {values : List (String × Value)} {hits : List Hit}
    {n : Nat} (hn : n < 2 ^ 64) (hstop : ∀ s ∈ (o.add values hits).spans, s.stop ≤ n)
    (settings : Decision.Settings Single) (text : String) :
    (o.decision settings text).coverage ≤
      ((o.add values hits).decision settings text).coverage := by
  have hcovered : Span.covered (o.add values hits).spans ≤ n := Span.covered_le hstop
  refine coverage_le_coverage (isFinite_natCast (hcovered.trans hn.le)) ?_
    (Span.covered_le_covered_append _ _) _
  intro hnil
  exact (List.append_eq_nil_iff.1 hnil).1

namespace Rule

variable {rules more : List Rule}

/-! ### Rules -/

/-- Rules behind others of no lower priority only add to what those have found. -/
theorem applyAll_append_eq_add (h : ∀ r ∈ rules, ∀ s ∈ more, s.priority ≤ r.priority)
    (text : String) :
    applyAll (rules ++ more) text =
      (applyAll rules text).add ((inOrder more).flatMap (evidence text))
        ((inOrder more).flatMap (hits text)) := by
  rw [applyAll_eq, applyAll_eq, inOrder_append h, List.flatMap_append, List.flatMap_append,
    Outcome.add_add]

/-- No span that rules find in a text goes behind it. -/
theorem stop_le_of_mem_spans {text : String} {s : Span} (h : s ∈ (applyAll rules text).spans) :
    s.stop ≤ text.utf8ByteSize := by
  obtain ⟨r, -, -, x, hx, rfl⟩ := mem_spans_applyAll.1 h
  have hspans := r.pattern.spans_occurrencesFrom text 0
  exact (hspans.within x.span (List.mem_map_of_mem hx)).2.1.le

/-- Further rules, behind rules of no lower priority, add hits and spans at the end and leave all
leaves and flags of the record.  Whatever a decision asks for, all signals stay; and in a text whose
length is a number of 64 bits the coverage does not decrease, and what is accepted stays
accepted. -/
theorem applyAll_append (h : ∀ r ∈ rules, ∀ s ∈ more, s.priority ≤ r.priority) (text : String) :
    let o := applyAll rules text
    let o' := applyAll (rules ++ more) text
    o.Within o' ∧ ∀ settings : Decision.Settings Single,
      (o.decision settings text).signals.Sublist (o'.decision settings text).signals ∧
      (text.utf8ByteSize < 2 ^ 64 →
        (o.decision settings text).coverage ≤ (o'.decision settings text).coverage ∧
        ((o.decision settings text).isAccepted = true →
          (o'.decision settings text).isAccepted = true)) := by
  intro o o'
  have hadd : o' = o.add ((inOrder more).flatMap (evidence text))
      ((inOrder more).flatMap (hits text)) := applyAll_append_eq_add h text
  -- the spans of both outcomes are among those of the second, which all lie in the text
  have hstop : ∀ s ∈ o'.spans, s.stop ≤ text.utf8ByteSize := fun _ => stop_le_of_mem_spans
  rw [hadd] at hstop ⊢
  have hkeeps := o.keeps_add ((inOrder more).flatMap (evidence text))
    ((inOrder more).flatMap (hits text))
  refine ⟨o.within_add _ _, fun settings => ⟨?_, fun hsize => ?_⟩⟩
  · exact Decision.signals_sublist hkeeps settings _ _ text
  · have hcoverage := Outcome.coverage_le_add hsize hstop settings text
    exact ⟨hcoverage, Decision.isAccepted_of_isAccepted hkeeps hcoverage⟩

/-- A rule that finds a fee. -/
def feeRule : Rule :=
  { id := "fee", priority := 2, source := "FEE", pattern := .text "FEE".toList
    fields := some [⟨"fee.percent", ⟨["50"]⟩⟩] }

/-- A rule of a lower priority, which finds another fee and a window. -/
def windowRule : Rule :=
  { id := "window", priority := 1, source := "DAYS", pattern := .text "DAYS".toList
    fields := some [⟨"fee.percent", ⟨["80"]⟩⟩, ⟨"window.cutoff_days", ⟨["3"]⟩⟩] }

/-- Settings that ask for a quarter of the text and one signal. -/
def quarter : Decision.Settings Single := ⟨.ofDecimal .single false 25 2, 1, "", []⟩

/-- A rule of lower priority adds to what is accepted, which stays accepted. -/
theorem applyAll_append_windowRule :
    (∀ r ∈ [feeRule], ∀ s ∈ [windowRule], s.priority ≤ r.priority) ∧
    "FEE 3 DAYS".utf8ByteSize < 2 ^ 64 ∧
    ((applyAll [feeRule] "FEE 3 DAYS").decision quarter "FEE 3 DAYS").isAccepted = true ∧
    ((applyAll [feeRule, windowRule] "FEE 3 DAYS").decision quarter "FEE 3 DAYS").isAccepted =
      true := by
  have h : ∀ r ∈ [feeRule], ∀ s ∈ [windowRule], s.priority ≤ r.priority := by decide
  have hsize : "FEE 3 DAYS".utf8ByteSize < 2 ^ 64 := by decide
  have haccepted : ((applyAll [feeRule] "FEE 3 DAYS").decision quarter
      "FEE 3 DAYS").isAccepted = true := by decide +kernel
  obtain ⟨-, hdecision⟩ := applyAll_append h "FEE 3 DAYS"
  exact ⟨h, hsize, haccepted, ((hdecision quarter).2 hsize).2 haccepted⟩

end Rule

end CancellationPolicy
