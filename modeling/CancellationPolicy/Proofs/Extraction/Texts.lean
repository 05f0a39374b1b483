import CancellationPolicy.Proofs.Extraction.Leaves
import CancellationPolicy.Scoring.Confidence

/-!
# Texts in extracted records

What looks like a number is one in a record that rules build: a text in it is not empty, is trimmed
and is no amount, and a text at a count field is no count either (`Rule.texts_applyAll`).  It comes
from a term whose value is a text only after all attempts to read a number from it have failed
(`Expression.isPlain_of_resolve?`), and a write keeps it only if it is no count.

So the checks behind the penalties come down to where texts stand: that of the amount of a fee finds
every text malformed, and that of the counts is met iff there is a text at some count field
(`Confidence.penaltiesOf_eq`).
-/

namespace CancellationPolicy

variable {s p : String}

/-! ### Records -/

namespace Rule

variable {rules : List Rule} {text : String}

/-- A text in an extracted record is plain. -/
theorem isPlain_of_mem_leaves (h : (p, Value.text s) ∈ (applyAll rules text).record.leaves) :
    Text.IsPlain s := by
  have hget : (applyAll rules text).record.get? p = some (.text s) :=
    (Keyed.find?_eq_some_iff (wellFormed_applyAll rules text).sorted).2 h
  obtain ⟨r, -, w, hw, hcoerce⟩ := exists_evidence_of_get? hget
  obtain ⟨rfl, -⟩ := Record.coerce_eq_text.1 hcoerce.symm
  obtain ⟨fields, -, x, -, f, -, -, hresolve⟩ := mem_evidence.1 hw
  exact Expression.isPlain_of_resolve? hresolve

end Rule

/-! ### Penalties -/

namespace Confidence

variable {α : Type}

/-- The penalties for the texts of a record: one if there is a text for the amount of the fee, and
one if there is a text at some count field. -/
def dues (penalties : Penalties α) (r : Record) : List α :=
  (if (r.text? "fee.amount").isSome then [penalties.feeAmount] else []) ++
    if r.leaves.any (fun l => Path.isCount l.1 && l.2.text?.isSome) then [penalties.count] else []

theorem any_isCount_iff {r : Record} :
    r.leaves.any (fun l => Path.isCount l.1 && l.2.text?.isSome) = true ↔
      ∃ p s, Path.EndsInCount p ∧ (p, Value.text s) ∈ r.leaves := by
  rw [List.any_eq_true]
  constructor
  · rintro ⟨⟨p, v⟩, hl, h⟩
    obtain ⟨hcount, htext⟩ := Bool.and_eq_true_iff.1 h
    cases v with
    | text s => exact ⟨p, s, Path.isCount_iff.1 hcount, hl⟩
    | number n => cases htext
  · rintro ⟨p, s, hcount, hl⟩
    exact ⟨(p, .text s), hl, by simp [Value.text?, Path.isCount_iff.2 hcount]⟩

/-- There is a malformed count exactly if a text stands at a count field. -/
theorem hasMalformed_eq_any {r : Record} (hr : r.WellFormed) :
    r.hasMalformed = r.leaves.any fun l => Path.isCount l.1 && l.2.text?.isSome := by
  rw [Bool.eq_iff_iff, any_isCount_iff]
  have hflags : r.hasMalformed = true ↔ ∃ p, p ∈ r.malformed := by
    rw [Record.hasMalformed, Record.malformed, Keyed.names]
    cases r.flags with
    | nil => simp
    | cons f flags => simp
  rw [hflags]
  constructor
  · rintro ⟨p, hp⟩
    obtain ⟨hcount, s, hs⟩ := (hr.mem_malformed_iff p).1 hp
    exact ⟨p, s, hcount, hs⟩
  · rintro ⟨p, s, hcount, hs⟩
    exact ⟨p, (hr.mem_malformed_iff p).2 ⟨hcount, s, hs⟩⟩

/-- Where no text for the amount of the fee is an amount, the penalties are what is due for texts,
added up. -/
theorem penaltiesOf_eq [Zero α] [Add α] (settings : Settings α) {r : Record} (hr : r.WellFormed)
    (hamount : ∀ s, r.text? "fee.amount" = some s → Amount.parse? s = none) :
    penaltiesOf settings r = (dues settings.penalties r).foldl (· + ·) 0 := by
  have hmalformed : ∀ s, r.text? "fee.amount" = some s → Amount.isWellFormed s = false := by
    intro s hs
    rw [Amount.isWellFormed, hamount s hs]
    rfl
  rw [penaltiesOf, dues, hasMalformed_eq_any hr]
  cases hs : r.text? "fee.amount" with
  | none => split <;> rfl
  | some s => simp only [hmalformed s hs]; split <;> rfl

end Confidence

/-- In the record that rules build from a text, every text is not empty, has no blank at its ends
and is no amount, and at a count field it is no count.  The penalties are that for the amount of a
fee if a text stands there, and that for counts, once, if a text stands at some count field. -/
theorem Rule.texts_applyAll (rules : List Rule) (text : String) :
    let r := (applyAll rules text).record
    (∀ p s, (p, Value.text s) ∈ r.leaves →
      s ≠ "" ∧ Text.IsTrimmed s.toList ∧ Amount.parse? s = none ∧
        (Path.EndsInCount p → Count.parse? s = none)) ∧
    ∀ {α : Type} [Zero α] [Add α] (settings : Confidence.Settings α),
      Confidence.penaltiesOf settings r =
        (Confidence.dues settings.penalties r).foldl (· + ·) 0 := by
  intro r
  have hr : r.WellFormed := wellFormed_applyAll rules text
  constructor
  · intro p s hs
    obtain ⟨hne, htrim, hamount⟩ := isPlain_of_mem_leaves hs
    exact ⟨hne, htrim, hamount, hr.garbled p s hs⟩
  · intro α _ _ settings
    refine Confidence.penaltiesOf_eq settings hr fun s hs => ?_
    obtain ⟨v, hv, hvs⟩ := Option.bind_eq_some_iff.1 hs
    cases v with
    | number n => cases hvs
    | text t =>
      obtain rfl := Option.some.inj hvs
      exact (isPlain_of_mem_leaves (Keyed.mem_of_find?_eq_some hv)).2.2

/-- A rule that finds a letter and fills fields with what is no number and with what is one. -/
def Rule.garbledRule : Rule :=
  { id := "garbled", priority := 0, source := "A", pattern := .text ['A']
    fields := some [⟨"fee.amount", ⟨["12,3,4"]⟩⟩, ⟨"fee.nights", ⟨["ONE"]⟩⟩,
      ⟨"fee.percent", ⟨["50%"]⟩⟩] }

/-- Both penalties are due where commas are misplaced and a count is spelled out. -/
theorem Rule.texts_applyAll_garbledRule :
    let r := (applyAll [garbledRule] "A").record
    r.leaves = [("fee.amount", .text "12,3,4"), ("fee.nights", .text "ONE"),
      ("fee.percent", .number (.ofNat 50))] ∧
    Amount.parse? "12,3,4" = none ∧
    (Path.EndsInCount "fee.nights" ∧ Count.parse? "ONE" = none) ∧
    ∀ settings : Confidence.Settings Single, Confidence.penaltiesOf settings r =
      0 + settings.penalties.feeAmount + settings.penalties.count := by
  intro r
  have hleaves : r.leaves = [("fee.amount", .text "12,3,4"), ("fee.nights", .text "ONE"),
      ("fee.percent", .number (.ofNat 50))] := by decide +kernel
  have hnights : Path.EndsInCount "fee.nights" := Path.isCount_iff.1 (by decide +kernel)
  obtain ⟨htexts, hpenalties⟩ := texts_applyAll [garbledRule] "A"
  have hamount := htexts "fee.amount" "12,3,4" (by rw [hleaves]; simp)
  have hcount := htexts "fee.nights" "ONE" (by rw [hleaves]; simp)
  refine ⟨hleaves, hamount.2.2.1, ⟨hnights, hcount.2.2.2 hnights⟩, fun settings => ?_⟩
  have hdue : Confidence.dues settings.penalties r =
      [settings.penalties.feeAmount, settings.penalties.count] := by
    have hfee : (r.text? "fee.amount").isSome = true := by decide +kernel
    have hany : r.leaves.any (fun l => Path.isCount l.1 && l.2.text?.isSome) = true := by
      decide +kernel
    rw [Confidence.dues, hfee, hany]
    rfl
  rw [hpenalties settings, hdue]
  rfl

end CancellationPolicy
