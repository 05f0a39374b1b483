import CancellationPolicy.Proofs.Extraction.FirstMatch
import CancellationPolicy.Proofs.Record.Outcome
import CancellationPolicy.Proofs.Rule.Filling

/-!
# Where the fields of a record come from

What the record that rules build from a text holds at a path is evidence of one of them
(`Rule.exists_evidence_of_get?`).  Where no path of a rule lies above another (`Path.areLeaves`),
whatever there is evidence for is present (`Rule.isPresent_of_mem_evidence`).  So a rule that has
filled one field has seen to it that the fields which it always fills are present, be it by an
earlier rule (`Rule.isPresent_of_alwaysFills`).
-/

namespace CancellationPolicy

namespace Path

variable {ps : List String} {p q : String}

/-- Whether paths are valid and none of them lies above another. -/
def areLeaves (ps : List String) : Bool :=
  ps.all fun p => isValid p && ps.all fun q => !isAbove p q

theorem areLeaves_iff :
    areLeaves ps = true ↔ ∀ p ∈ ps, isValid p = true ∧ ∀ q ∈ ps, ¬Above p q := by
  simp only [areLeaves, List.all_eq_true, Bool.and_eq_true, Bool.not_eq_true',
    ← Bool.not_eq_true, isAbove_iff]

theorem apart_of_areLeaves (h : areLeaves ps = true) (hp : p ∈ ps) (hq : q ∈ ps) : Apart p q :=
  have h := areLeaves_iff.1 h
  ⟨(h p hp).2 q hq, (h q hq).2 p hp⟩

end Path

namespace Rule

variable {rules : List Rule} {r : Rule} {text p q : String} {v : Value}

theorem wellFormed_applyAll (rules : List Rule) (text : String) :
    (applyAll rules text).record.WellFormed := by
  rw [applyAll_eq]
  exact Record.wellFormed_new.writeAll _

theorem exists_evidence_of_get? (h : (applyAll rules text).record.get? p = some v) :
    ∃ r ∈ rules, ∃ w, (p, w) ∈ r.evidence text ∧ v = Record.coerce p w := by
  rw [applyAll_eq] at h
  obtain ⟨w, hw, hv⟩ := Record.exists_mem_of_get?_writeAll h
  obtain ⟨r, hr, hevidence⟩ := List.mem_flatMap.1 hw
  exact ⟨r, mem_inOrder.1 hr, w, hevidence, hv⟩

/-! ### Presence -/

/-- The paths of the fields of a rule. -/
def paths (r : Rule) : List String := (r.fields.getD []).map Field.path

theorem mem_paths_of_mem_evidence {e : String × Value} (he : e ∈ r.evidence text) :
    e.1 ∈ r.paths := by
  obtain ⟨fields, hfields, x, -, f, hf, hpath, -⟩ := mem_evidence.1 he
  rw [paths, hfields, ← hpath]
  exact List.mem_map_of_mem hf

/-- What a rule gives evidence for is present. -/
theorem isPresent_of_mem_evidence (hleaves : Path.areLeaves (rules.flatMap paths) = true)
    (hr : r ∈ rules) (he : (p, v) ∈ r.evidence text) :
    (applyAll rules text).record.isPresent p = true := by
  have hmem {s : Rule} {q : String} (hs : s ∈ rules) (hq : q ∈ s.paths) :
      q ∈ rules.flatMap paths := List.mem_flatMap.2 ⟨s, hs, hq⟩
  have hp := hmem hr (mem_paths_of_mem_evidence he)
  have hfields : ∀ e ∈ (inOrder rules).flatMap (evidence text),
      e.2.isEmpty = false ∧ Path.Apart e.1 p := by
    refine evidence_of_fields (P := fun q => Path.Apart q p) fun s hs fields hf f hmemf => ?_
    refine Path.apart_of_areLeaves hleaves (hmem (mem_inOrder.1 hs) ?_) hp
    rw [paths, hf]
    exact List.mem_map_of_mem hmemf
  have hget := Record.get?_writeAll ((Path.areLeaves_iff.1 hleaves p hp).1) (r := Record.new) rfl
    (by simp [Record.new, Keyed.names]) hfields
  -- the path has evidence, so some evidence for it comes first
  have hevidence : (p, v) ∈ (inOrder rules).flatMap (evidence text) :=
    List.mem_flatMap.2 ⟨r, mem_inOrder.2 hr, he⟩
  have hsome : (((inOrder rules).flatMap (evidence text)).find? (·.1 == p)).isSome = true :=
    List.find?_isSome.2 ⟨(p, v), hevidence, beq_self_eq_true p⟩
  obtain ⟨f, hf⟩ := Option.isSome_iff_exists.1 hsome
  rw [hf, Option.map_some] at hget
  have hfilled := (hfields f (List.mem_of_find?_eq_some hf)).1
  rw [applyAll_eq]
  show Record.isPresent (Record.new.writeAll _) p = true
  rw [Record.isPresent, hget]
  simpa using Record.isEmpty_coerce p hfilled

/-- With one field of an occurrence, those that the rule always fills are present. -/
theorem isPresent_of_alwaysFills (hleaves : Path.areLeaves (rules.flatMap paths) = true)
    (hr : r ∈ rules) (he : (p, v) ∈ r.evidence text) (hq : r.alwaysFills q = true) :
    (applyAll rules text).record.isPresent q = true := by
  obtain ⟨fields, -, x, hx, -⟩ := mem_evidence.1 he
  obtain ⟨w, hw⟩ := exists_evidence_of_alwaysFills hq hx
  exact isPresent_of_mem_evidence hleaves hr hw

/-! ### Counts -/

/-- Of rules that read counts, a count field holds a number or a text with a foreign digit. -/
theorem isCountIn_of_get? (hreads : ∀ r ∈ rules, r.readsCounts = true)
    (hget : (applyAll rules text).record.get? p = some v) (hp : Path.isCount p = true) :
    IsCountIn text v := by
  obtain ⟨r, hr, w, hw, rfl⟩ := exists_evidence_of_get? hget
  have hcount := isCountIn_of_mem_evidence (hreads r hr) hw hp
  cases hc : Record.coerce p w with
  | number n => exact .inl ⟨n, rfl⟩
  | text s =>
    rw [(Record.coerce_eq_text.1 hc).1] at hcount
    exact hcount

end Rule

end CancellationPolicy
