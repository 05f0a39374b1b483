import CancellationPolicy.Proofs.Extraction.Replay
import CancellationPolicy.Proofs.Rule.Order

/-!
# Hits explain the outcome

The hits of an outcome are the occurrences of the enabled rules, rule by rule (`Rule.found`), and
each list of occurrences depends on its rule and the text alone.  The record is what filling the
fields of the rules makes of these occurrences, one after another (`Rule.replay`), so nothing else
has an influence on it, disabled rules in particular (`applyAll_eq_replay`).
-/

namespace CancellationPolicy.Rule

variable {β : Type} {rules : List Rule} {text : String} {r : Rule}

/-! ### Enabled rules -/

/-- What disabled rules have nothing of is a matter of the enabled rules. -/
theorem flatMap_filter_isEnabled {f : Rule → List β} (h : ∀ r, r.fields = none → f r = [])
    (rules : List Rule) : (rules.filter isEnabled).flatMap f = rules.flatMap f := by
  induction rules with
  | nil => rfl
  | cons r rules ih =>
    rw [List.filter_cons, List.flatMap_cons]
    split
    · rw [List.flatMap_cons, ih]
    · rename_i hr
      rw [ih, h r (by simpa [isEnabled] using hr), List.nil_append]

theorem hits_of_fields_eq_none (text : String) (r : Rule) (h : r.fields = none) :
    r.hits text = [] := by
  rw [hits, h]

theorem evidence_of_fields_eq_none (text : String) (r : Rule) (h : r.fields = none) :
    r.evidence text = [] := by
  rw [evidence, h]

/-- A rule that is enabled has a hit for each occurrence. -/
theorem hits_of_isEnabled (h : r.isEnabled = true) :
    r.hits text = (r.pattern.occurrences text).map (Hit.mk r.id) := by
  obtain ⟨fields, hfields⟩ := Option.isSome_iff_exists.1 h
  rw [hits, hfields]

/-- Disabled rules leave no trace. -/
theorem applyAll_filter_isEnabled (rules : List Rule) (text : String) :
    applyAll (rules.filter isEnabled) text = applyAll rules text := by
  rw [applyAll_eq, applyAll_eq, inOrder_filter,
    flatMap_filter_isEnabled (hits_of_fields_eq_none text),
    flatMap_filter_isEnabled (evidence_of_fields_eq_none text)]

/-! ### Occurrences of rules -/

/-- The occurrences of enabled rules, each with its rule: those of one rule after those of another,
in the order in which rules are applied, and from left to right in the text. -/
def found (rules : List Rule) (text : String) : List (Rule × Occurrence) :=
  ((inOrder rules).filter isEnabled).flatMap fun r => (r.pattern.occurrences text).map (r, ·)

/-- Fills the fields of a rule, in their order, from an occurrence. -/
def replay (record : Record) (x : Rule × Occurrence) : Record :=
  (x.1.fields.getD []).foldl (fill x.2.captures) record

/-- The hits are the occurrences found, each under the name of its rule. -/
theorem hits_applyAll (rules : List Rule) (text : String) :
    (applyAll rules text).hits = (found rules text).map fun x => ⟨x.1.id, x.2⟩ := by
  have happly : (applyAll rules text).hits = (inOrder rules).flatMap (hits text) := by
    rw [applyAll_eq]
    exact List.nil_append _
  rw [happly, ← flatMap_filter_isEnabled (hits_of_fields_eq_none text), found, List.map_flatMap]
  rw [List.flatMap_def, List.flatMap_def]
  congr 1
  refine List.map_congr_left fun r hr => ?_
  rw [hits_of_isEnabled (List.mem_filter.1 hr).2, List.map_map]
  rfl

theorem spans_applyAll (rules : List Rule) (text : String) :
    (applyAll rules text).spans = (applyAll rules text).hits.map fun h => h.occurrence.span := by
  rw [applyAll_eq]
  rfl

/-- Replaying the occurrences of a rule writes what each of them says, in order. -/
theorem foldl_replay (xs : List Occurrence) (r : Rule) (record : Record) :
    (xs.map (r, ·)).foldl replay record =
      record.writeAll (xs.flatMap (values (r.fields.getD []))) := by
  induction xs generalizing record with
  | nil => rfl
  | cons x xs ih =>
    rw [List.map_cons, List.foldl_cons, ih, replay, foldl_fill, List.flatMap_cons,
      Record.writeAll_append]

/-- The evidence of a rule is what each occurrence says. -/
theorem evidence_eq_flatMap (text : String) (r : Rule) :
    r.evidence text = (r.pattern.occurrences text).flatMap (values (r.fields.getD [])) := by
  rw [evidence]
  cases r.fields with
  | none => simp [values]
  | some fields => rfl

/-- The record is what the replay of all occurrences writes. -/
theorem record_applyAll (rules : List Rule) (text : String) :
    (applyAll rules text).record = (found rules text).foldl replay .new := by
  have hreplay (rules : List Rule) (record : Record) :
      (rules.flatMap fun r => (r.pattern.occurrences text).map (r, ·)).foldl replay record =
        record.writeAll (rules.flatMap (evidence text)) := by
    induction rules generalizing record with
    | nil => rfl
    | cons r rules ih =>
      rw [List.flatMap_cons, List.foldl_append, foldl_replay, ih, List.flatMap_cons,
        evidence_eq_flatMap, Record.writeAll_append]
  rw [found, hreplay, flatMap_filter_isEnabled (evidence_of_fields_eq_none text), applyAll_eq]
  rfl

/-- Rules are applied by descending priority, those of one priority in the order in which they are
given.  The hits are the occurrences of the enabled rules in this order, those of each rule being
what it finds alone; the spans are those of the hits; and the record is the one to which the empty
record leads if the fields of the rules are filled from the occurrences, hit by hit.  Without the
disabled rules the outcome is the same. -/
theorem applyAll_eq_replay (rules : List Rule) (text : String) :
    let o := applyAll rules text
    IsEvaluationOrder rules (inOrder rules) ∧
    o.hits = (found rules text).map (fun x => ⟨x.1.id, x.2⟩) ∧
    (∀ r, r.isEnabled = true →
      (applyAll [r] text).hits = (r.pattern.occurrences text).map (Hit.mk r.id)) ∧
    o.spans = o.hits.map (fun h => h.occurrence.span) ∧
    o.record = (found rules text).foldl replay .new ∧
    applyAll (rules.filter isEnabled) text = o := by
  intro o
  refine ⟨isEvaluationOrder_inOrder rules, hits_applyAll rules text, fun r hr => ?_,
    spans_applyAll rules text, record_applyAll rules text, applyAll_filter_isEnabled rules text⟩
  rw [hits_applyAll, found]
  -- a rule alone is in order, and it is not left out
  have horder : (inOrder [r]).filter isEnabled = [r] := List.filter_cons_of_pos hr
  rw [horder, List.flatMap_singleton, List.map_map]
  rfl

end CancellationPolicy.Rule
