import CancellationPolicy.Proofs.Extraction.Layout
import CancellationPolicy.Proofs.Rule.Shipped

/-!
# Counts that the shipped rules extract

The shipped rules take for a digit what is a digit in any script, but amounts are only written with
the ten digits of one (`Unicode.isForeignDigit`).  A count field that they fill therefore holds a
number, unless the text has a foreign digit (`Extraction.counts_of_shipped`).  With one it may hold
a text, and is flagged (`Extraction.malformed_arabicText`).
-/

namespace CancellationPolicy

/-! ### Digits -/

/-- What is in joined words is in one of them or between them. -/
theorem Text.mem_intercalate {ws : List (List Char)} {c d : Char} (h : c ∈ [d].intercalate ws) :
    c = d ∨ ∃ w ∈ ws, c ∈ w := by
  induction ws with
  | nil => cases h
  | cons w ws ih =>
    cases ws with
    | nil =>
      rw [List.intercalate_singleton] at h
      exact .inr ⟨w, List.mem_cons_self, h⟩
    | cons v ws =>
      rw [List.intercalate_cons_cons, List.append_assoc, List.singleton_append] at h
      rcases List.mem_append.1 h with h | h
      · exact .inr ⟨w, List.mem_cons_self, h⟩
      · rcases List.mem_cons.1 h with rfl | h
        · exact .inl rfl
        · exact (ih h).imp_right fun ⟨u, hu, hc⟩ => ⟨u, List.mem_cons_of_mem _ hu, hc⟩

/-- Canonical texts have no digits of their own. -/
theorem mem_of_mem_canonical {text : String} {c : Char} (hc : c ∈ (canonical text).toList)
    (hdigit : Unicode.digits.holds c = true) : c ∈ text.toList := by
  rw [Text.toList_canonical] at hc
  rcases Text.mem_intercalate hc with rfl | ⟨w, hw, hcw⟩
  · exact absurd hdigit (by decide)
  · obtain ⟨v, hv, rfl⟩ := List.mem_map.1 hw
    obtain ⟨d, hd, hcd⟩ := List.mem_flatMap.1 hcw
    obtain rfl := Unicode.isDigit_of_mem_uppercase hcd hdigit
    exact Text.mem_of_mem_words hv hd

/-! ### Penalties -/

/-- The penalty for counts only matters if a count field is flagged. -/
theorem Confidence.score_of_malformed_eq_nil {α : Type} [Zero α] [One α] [Add α] [Sub α] [Mul α]
    [Div α] [NatCast α] [LT α] [DecidableLT α] [LE α] [DecidableLE α] [Ord α]
    (settings : Settings α) {r : Record} (h : r.malformed = []) (penalty : α)
    (spans : List Span) (text : String) :
    score { settings with penalties := { settings.penalties with count := penalty } } r spans text =
      score settings r spans text := by
  have hflags : r.hasMalformed = false := by
    rw [Record.hasMalformed, List.map_eq_nil_iff.1 h]
    rfl
  have hpenalties :
      penaltiesOf { settings with penalties := { settings.penalties with count := penalty } } r =
        penaltiesOf settings r := by
    simp only [penaltiesOf, hflags, Bool.false_eq_true, if_false]
  rw [score, hpenalties]
  rfl

namespace Extraction

variable {s : RuleSet} {text p : String} {v : Value}

/-! ### Counts -/

/-- A count field holds a number, or a text with a foreign digit of the text. -/
theorem number_or_foreign_of_get? (hs : RuleSet.shipped? = .ok s)
    (hget : (Rule.applyAll s.rules (CancellationPolicy.canonical text)).record.get? p = some v)
    (hp : Path.EndsInCount p) :
    (∃ n, v = .number n) ∨
      ∃ w, v = .text w ∧ ∃ c ∈ w.toList, Unicode.isForeignDigit c = true ∧ c ∈ text.toList := by
  have hreads : ∀ r ∈ s.rules, r.readsCounts = true :=
    fun r hr => (RuleSet.sound_of_shipped hs hr).1
  obtain hnumber | ⟨w, hw, hpart, c, hc, hforeign⟩ :=
    Rule.isCountIn_of_get? hreads hget (Path.isCount_iff.2 hp)
  · exact .inl hnumber
  · have hdigit := (Bool.and_eq_true_iff.1 hforeign).1
    exact .inr ⟨w, hw, c, hc, hforeign, mem_of_mem_canonical (hpart.subset hc) hdigit⟩

/-- A path is flagged iff it is that of a count field which holds a text. -/
theorem mem_malformed_iff :
    p ∈ (Rule.applyAll s.rules text).record.malformed ↔
      Path.EndsInCount p ∧ ∃ w, (Rule.applyAll s.rules text).record.get? p = some (.text w) := by
  have hr := Rule.wellFormed_applyAll s.rules text
  rw [hr.mem_malformed_iff]
  simp only [Record.get?, Keyed.find?_eq_some_iff hr.sorted]

/-- A count field holds a number, or it is flagged and holds a text with a foreign digit. -/
theorem number_or_malformed_of_get? (hs : RuleSet.shipped? = .ok s)
    (hget : (Rule.applyAll s.rules (CancellationPolicy.canonical text)).record.get? p = some v)
    (hp : Path.EndsInCount p) :
    (∃ n, v = .number n) ∧
        p ∉ (Rule.applyAll s.rules (CancellationPolicy.canonical text)).record.malformed ∨
      p ∈ (Rule.applyAll s.rules (CancellationPolicy.canonical text)).record.malformed ∧
        ∃ w, v = .text w ∧ ∃ c ∈ w.toList, Unicode.isForeignDigit c = true ∧ c ∈ text.toList := by
  rcases number_or_foreign_of_get? hs hget hp with ⟨n, rfl⟩ | ⟨w, rfl, hforeign⟩
  · refine .inl ⟨⟨n, rfl⟩, fun hmem => ?_⟩
    obtain ⟨-, w, hw⟩ := mem_malformed_iff.1 hmem
    rw [hget] at hw
    cases hw
  · exact .inr ⟨mem_malformed_iff.2 ⟨hp, w, hget⟩, w, rfl, hforeign⟩

/-- No field is flagged iff the texts at count fields have no foreign digits. -/
theorem malformed_eq_nil_iff (hs : RuleSet.shipped? = .ok s) :
    (Rule.applyAll s.rules (CancellationPolicy.canonical text)).record.malformed = [] ↔
      ∀ p w, (Rule.applyAll s.rules (CancellationPolicy.canonical text)).record.get? p =
          some (.text w) →
        Path.EndsInCount p → ∀ c ∈ w.toList, Unicode.isForeignDigit c = false := by
  constructor
  · intro hnil p w hw hp
    have hmem := mem_malformed_iff.2 ⟨hp, w, hw⟩
    rw [hnil] at hmem
    cases hmem
  · intro htexts
    refine List.eq_nil_iff_forall_not_mem.2 fun p hp => ?_
    obtain ⟨hcount, w, hw⟩ := mem_malformed_iff.1 hp
    -- a text at a place for a count has foreign digits, which is the only other case
    rcases number_or_foreign_of_get? hs hw hcount with ⟨n, hn⟩ | ⟨u, hu, c, hc, hforeign, -⟩
    · cases hn
    · rw [htexts p u (hu ▸ hw) hcount c hc] at hforeign
      cases hforeign

/-- Without foreign digits in the text no field is flagged. -/
theorem malformed_eq_nil (hs : RuleSet.shipped? = .ok s)
    (htext : ∀ c ∈ text.toList, Unicode.isForeignDigit c = false) :
    (Rule.applyAll s.rules (CancellationPolicy.canonical text)).record.malformed = [] := by
  refine List.eq_nil_iff_forall_not_mem.2 fun p hp => ?_
  obtain ⟨hcount, w, hw⟩ := mem_malformed_iff.1 hp
  rcases number_or_foreign_of_get? hs hw hcount with ⟨n, hn⟩ | ⟨-, -, c, -, hforeign, hc⟩
  · cases hn
  · rw [htext c hc] at hforeign
    cases hforeign

/-- Without malformed counts, their penalty does not matter. -/
theorem ofText_of_malformed_eq_nil
    (h : (Rule.applyAll s.rules (CancellationPolicy.canonical text)).record.malformed = [])
    (confidence : Confidence.Settings Single) (decision : Decision.Settings Single)
    (penalty : Single) :
    ofText s { confidence with penalties := { confidence.penalties with count := penalty } }
        decision text =
      ofText s confidence decision text := by
  simp only [ofText, Confidence.score_of_malformed_eq_nil confidence h penalty]

/-- There are shipped rules.  In an extraction with them, a count field holds a number, or it is
flagged and holds a text with a foreign digit that the given text holds as well.  So no field is
flagged iff no text at a count field has a foreign digit, and none is if the given text has no
foreign digits.  The penalty for counts does not matter then. -/
theorem counts_of_shipped (confidence : Confidence.Settings Single)
    (decision : Decision.Settings Single) (text : String) :
    ∃ s, RuleSet.shipped? = .ok s ∧
      let x := ofText s confidence decision text
      (∀ p v, x.outcome.record.get? p = some v → Path.EndsInCount p →
        (∃ n, v = .number n) ∧ p ∉ x.outcome.record.malformed ∨
          p ∈ x.outcome.record.malformed ∧ ∃ w, v = .text w ∧
            ∃ c ∈ w.toList, Unicode.isForeignDigit c = true ∧ c ∈ text.toList) ∧
      (x.outcome.record.malformed = [] ↔
        ∀ p w, x.outcome.record.get? p = some (.text w) → Path.EndsInCount p →
          ∀ c ∈ w.toList, Unicode.isForeignDigit c = false) ∧
      ((∀ c ∈ text.toList, Unicode.isForeignDigit c = false) →
        x.outcome.record.malformed = []) ∧
      (x.outcome.record.malformed = [] → ∀ penalty, ofText s
        { confidence with penalties := { confidence.penalties with count := penalty } }
        decision text = x) := by
  obtain ⟨s, hs, -⟩ := RuleSet.exists_shipped
  refine ⟨s, hs, fun p v hv hp => number_or_malformed_of_get? hs hv hp, malformed_eq_nil_iff hs,
    malformed_eq_nil hs, fun hnil => ofText_of_malformed_eq_nil hnil confidence decision⟩

/-- Without a foreign digit, the percentage of a fee is a number. -/
theorem counts_of_shipped_deadlineAndFee :
    ∃ s, RuleSet.shipped? = .ok s ∧
      let text := "Cancel by 18:30 on 12mar25 or pay 50% of the stay"
      let x := ofText s .default .default text
      (x.outcome.record.get? "fee.percent" = some (.number (.ofNat 50)) ∧
        Path.EndsInCount "fee.percent" ∧
        ∀ c ∈ text.toList, Unicode.isForeignDigit c = false) ∧
      "fee.percent" ∉ x.outcome.record.malformed ∧
      x.outcome.record.malformed = [] ∧
      ofText s
        { Confidence.Settings.default with
          penalties := { Confidence.Settings.default.penalties with count := 1 } }
        .default text = x := by
  have hcounts := counts_of_shipped .default .default
    "Cancel by 18:30 on 12mar25 or pay 50% of the stay"
  obtain ⟨s, hs, hread, -, hnil, hpenalty⟩ := hcounts
  refine ⟨s, hs, ?_⟩
  intro text x
  have hr : x.outcome.record = RuleSet.deadlineAndFeeRecord := RuleSet.record_deadlineAndFee hs
  have hget : x.outcome.record.get? "fee.percent" = some (.number (.ofNat 50)) := by
    rw [hr]
    rfl
  have hcount : Path.EndsInCount "fee.percent" := Path.isCount_iff.1 (by decide +kernel)
  -- no character of the text is a foreign digit
  have hall : text.toList.all (fun c => !Unicode.isForeignDigit c) = true := by
    show "Cancel by 18:30 on 12mar25 or pay 50% of the stay".toList.all _ = true
    rw [String.toList_ofList]
    decide
  have htext : ∀ c ∈ text.toList, Unicode.isForeignDigit c = false := fun c hc => by
    simpa using List.all_eq_true.1 hall c hc
  have hmalformed : x.outcome.record.malformed = [] := hnil htext
  rcases hread _ _ hget hcount with ⟨-, hunflagged⟩ | ⟨-, w, hw, -⟩
  · exact ⟨⟨hget, hcount, htext⟩, hunflagged, hmalformed, hpenalty hmalformed 1⟩
  · cases hw

/-- The evidence of the rule for the days of free cancellation, the other rules giving none. -/
def freeDays (id : String) : List (String × Value) :=
  if id = "free_cancel_days" then
    [("window.cutoff_days", .text "٣"), ("window.type", .text "relative_to_arrival")]
  else []

/-- The only rule that finds the text finds the days of a free cancellation in it. -/
theorem checkAll_freeDays :
    RuleSet.checkAll (fun e r => r.evidence "FREE CANCELLATION UNTIL ٣ DAYS BEFORE ARRIVAL" ==
      freeDays e.1) = true := by
  simp only [-String.reduceToList, -String.reduceAppend, RuleSet.checkAll, RuleSet.shippedRules,
    List.all_cons, List.all_nil, String.toList_append]
  repeat rw [String.toList_ofList]
  decide +kernel

/-- A foreign digit is a number of days for a rule, but no count: the field is flagged, and the
penalty for counts is subtracted. -/
theorem malformed_arabicText :
    ∃ s, RuleSet.shipped? = .ok s ∧ ∀ confidence decision,
      let x := ofText s confidence decision "free cancellation until ٣ days before arrival"
      x.outcome.record.get? "window.cutoff_days" = some (.text "٣") ∧
      x.outcome.record.malformed = ["window.cutoff_days"] ∧
      x.confidence.penalties = 0 + confidence.penalties.count := by
  obtain ⟨s, hs, -⟩ := RuleSet.exists_shipped
  have hcanonical : CancellationPolicy.canonical "free cancellation until ٣ days before arrival" =
      "FREE CANCELLATION UNTIL ٣ DAYS BEFORE ARRIVAL" := by decide +kernel
  have hrecord : (Rule.applyAll s.rules
      (CancellationPolicy.canonical "free cancellation until ٣ days before arrival")).record =
        ⟨[("window.cutoff_days", .text "٣"), ("window.type", .text "relative_to_arrival")],
          [("window.cutoff_days", ())]⟩ := by
    rw [hcanonical, RuleSet.record_of_shipped hs checkAll_freeDays]
    decide +kernel
  refine ⟨s, hs, fun confidence decision => ⟨?_, ?_, ?_⟩⟩
  · exact congrArg (fun r : Record => r.get? "window.cutoff_days") hrecord
  · exact congrArg Record.malformed hrecord
  · exact congrArg (Confidence.penaltiesOf confidence) hrecord

end Extraction

end CancellationPolicy
