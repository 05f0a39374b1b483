import CancellationPolicy.Extraction.Outcome
import CancellationPolicy.Proofs.Extraction.Occurrences

/-!
# Rules as lists of hits and values

What a rule adds to an outcome does not depend on it: the hits of the rule in the text
(`Rule.hits`), and writes of the values that these give for its fields (`Rule.evidence`).  Applying
rules amounts to adding the hits and the evidence of all of them in the order in which they are
applied (`applyAll_eq`).
-/

namespace CancellationPolicy

/-! ### Adding to outcomes -/

/-- The outcome with hits noted and values written. -/
def Outcome.add (o : Outcome) (values : List (String × Value)) (hits : List Hit) : Outcome :=
  { record := o.record.writeAll values
    spans := o.spans ++ hits.map fun h => h.occurrence.span
    hits := o.hits ++ hits }

theorem Outcome.add_nil (o : Outcome) : o.add [] [] = o := by
  simp [add, Record.writeAll]

theorem Outcome.add_add (o : Outcome) (values more : List (String × Value)) (hits next : List Hit) :
    (o.add values hits).add more next = o.add (values ++ more) (hits ++ next) := by
  simp only [add, Record.writeAll_append, List.map_append, List.append_assoc]

/-! ### One search -/

namespace Rule

/-- The values that an occurrence gives for fields, in the order of the fields. -/
def values (fields : List Field) (x : Occurrence) : List (String × Value) :=
  fields.filterMap fun f => (f.expression.resolve? x.captures).map fun v => (f.path, v)

theorem foldl_fill (fields : List Field) (x : Occurrence) (r : Record) :
    fields.foldl (fill x.captures) r = r.writeAll (values fields x) := by
  induction fields generalizing r with
  | nil => rfl
  | cons f fields ih =>
    rw [List.foldl_cons, ih, fill, values, values, List.filterMap_cons]
    cases f.expression.resolve? x.captures <;> rfl

theorem note_eq_add (o : Outcome) (id : String) (fields : List Field) (x : Occurrence) :
    o.note id fields x = o.add (values fields x) [⟨id, x⟩] := by
  rw [Outcome.note, foldl_fill, Outcome.add, List.map_singleton]

theorem foldl_note (id : String) (fields : List Field) (xs : List Occurrence) (o : Outcome) :
    xs.foldl (fun o x => o.note id fields x) o =
      o.add (xs.flatMap (values fields)) (xs.map (Hit.mk id)) := by
  induction xs generalizing o with
  | nil => exact o.add_nil.symm
  | cons x xs ih =>
    rw [List.foldl_cons, ih, note_eq_add, Outcome.add_add, List.flatMap_cons, List.map_cons,
      List.singleton_append]

end Rule

namespace Search

variable {r : Rule} {fields : List Rule.Field} {text : String} {s t : Search}

theorem run_of_step?_eq_none (h : s.step? r fields text = none) :
    s.run r fields text = s.outcome := by
  rw [run]
  split
  · rfl
  · rename_i ht
    rw [h] at ht
    cases ht

theorem run_of_step?_eq_some (h : s.step? r fields text = some t) :
    s.run r fields text = t.run r fields text := by
  rw [run]
  split
  · rename_i hs
    rw [h] at hs
    cases hs
  · rename_i ht
    rw [h] at ht
    rw [Option.some.inj ht]

/-- A step notes the next occurrence and goes on behind it. -/
theorem exists_of_step? (h : s.step? r fields text = some t) :
    ∃ x, r.pattern.next? text s.cursor = some x ∧
      t = ⟨x.span.resume text, s.outcome.note r.id fields x⟩ := by
  obtain ⟨x, hx, rfl⟩ := Option.map_eq_some_iff.1 h
  exact ⟨x, hx, rfl⟩

/-- A search adds the occurrences from its cursor on. -/
theorem run_eq_add (r : Rule) (fields : List Rule.Field) (text : String) (s : Search) :
    s.run r fields text =
      s.outcome.add ((r.pattern.occurrencesFrom text s.cursor).flatMap (Rule.values fields))
        ((r.pattern.occurrencesFrom text s.cursor).map (Hit.mk r.id)) := by
  rw [← Rule.foldl_note]
  induction s using run.induct r fields text with
  | case1 s hnone =>
    have hnext : r.pattern.next? text s.cursor = none := Option.map_eq_none_iff.1 hnone
    rw [run_of_step?_eq_none hnone, Pattern.occurrencesFrom_of_none hnext, List.foldl_nil]
  | case2 s t hstep ih =>
    -- the step notes the first occurrence, and the rest are those found from the new cursor on
    obtain ⟨x, hx, rfl⟩ := exists_of_step? hstep
    rw [run_of_step?_eq_some hstep, ih, Pattern.occurrencesFrom_of_some hx, List.foldl_cons]

end Search

/-! ### All rules -/

namespace Rule

/-- The hits of a rule in a text; a disabled rule has none. -/
def hits (text : String) (r : Rule) : List Hit :=
  match r.fields with
  | none => []
  | some _ => (r.pattern.occurrences text).map (Hit.mk r.id)

/-- The values that the occurrences of a rule give for its fields, in the order in which they are
written. -/
def evidence (text : String) (r : Rule) : List (String × Value) :=
  match r.fields with
  | none => []
  | some fields => (r.pattern.occurrences text).flatMap (values fields)

theorem applyTo_eq_add (text : String) (o : Outcome) (r : Rule) :
    applyTo text o r = o.add (r.evidence text) (r.hits text) := by
  rw [applyTo, evidence, hits]
  cases r.fields with
  | none => exact o.add_nil.symm
  | some fields => exact Search.run_eq_add r fields text ⟨0, o⟩

theorem foldl_applyTo (text : String) (rules : List Rule) (o : Outcome) :
    rules.foldl (applyTo text) o =
      o.add (rules.flatMap (evidence text)) (rules.flatMap (hits text)) := by
  induction rules generalizing o with
  | nil => exact o.add_nil.symm
  | cons r rules ih =>
    rw [List.foldl_cons, ih, applyTo_eq_add, Outcome.add_add, List.flatMap_cons, List.flatMap_cons]

theorem applyAll_eq (rules : List Rule) (text : String) :
    applyAll rules text = Outcome.empty.add ((inOrder rules).flatMap (evidence text))
      ((inOrder rules).flatMap (hits text)) :=
  foldl_applyTo text _ _

/-- A value is evidence if it is what some occurrence gives for some field. -/
theorem mem_evidence {text : String} {r : Rule} {e : String × Value} :
    e ∈ r.evidence text ↔ ∃ fields ∈ r.fields, ∃ x ∈ r.pattern.occurrences text, ∃ f ∈ fields,
      f.path = e.1 ∧ f.expression.resolve? x.captures = some e.2 := by
  obtain ⟨p, v⟩ := e
  unfold evidence
  cases r.fields with
  | none => simp
  | some fields =>
    simp only [Option.mem_def, Option.some.injEq, exists_eq_left', List.mem_flatMap, values,
      List.mem_filterMap, Option.map_eq_some_iff, Prod.mk.injEq]
    constructor
    · rintro ⟨x, hx, f, hf, w, hw, rfl, rfl⟩
      exact ⟨x, hx, f, hf, rfl, hw⟩
    · rintro ⟨x, hx, f, hf, rfl, hv⟩
      exact ⟨x, hx, f, hf, v, hv, rfl, rfl⟩

theorem mem_hits {text : String} {r : Rule} {h : Hit} :
    h ∈ r.hits text ↔ r.isEnabled = true ∧ ∃ x ∈ r.pattern.occurrences text, h = ⟨r.id, x⟩ := by
  rw [hits, isEnabled]
  cases r.fields with
  | none => simp
  | some fields => simp [eq_comm]

/-- The spans are those of the occurrences of enabled rules. -/
theorem mem_spans_applyAll {rules : List Rule} {text : String} {s : Span} :
    s ∈ (applyAll rules text).spans ↔ ∃ r ∈ rules, r.isEnabled = true ∧
      ∃ x ∈ r.pattern.occurrences text, x.span = s := by
  rw [applyAll_eq, Outcome.add, Outcome.empty, List.nil_append, List.mem_map]
  constructor
  · rintro ⟨h, hh, rfl⟩
    obtain ⟨r, hr, hh⟩ := List.mem_flatMap.1 hh
    obtain ⟨henabled, x, hx, rfl⟩ := mem_hits.1 hh
    exact ⟨r, (mem_stableSort _).1 hr, henabled, x, hx, rfl⟩
  · rintro ⟨r, hr, henabled, x, hx, rfl⟩
    exact ⟨⟨r.id, x⟩, List.mem_flatMap.2 ⟨r, (mem_stableSort _).2 hr,
      mem_hits.2 ⟨henabled, x, hx, rfl⟩⟩, rfl⟩

end Rule

end CancellationPolicy
