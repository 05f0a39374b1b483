import CancellationPolicy.Summary

/-!
# What summaries say of complete records

A record is complete (`Record.IsComplete`) if the fields are present that say how much a fee of its
type is and at what time of its day a deadline is.  The summary of such a record states the fee from
its fields alone (`Summary.exists_feeClause`), without a default in place of a field, unless the
type of the fee is the one that goes with policies which exclude cancellation.  It does not assume a
time of day either (`Summary.exists_localTime?`).
-/

namespace CancellationPolicy

/-- The fields that say how much a fee of a known type is. -/
def FeeType.amounts? (type : String) : Option (List String) :=
  if type = "fixed_amount" then some ["fee.amount", "fee.currency"]
  else if type = "percentage" ∨ type = "percentage_or_nrf" then some ["fee.percent"]
  else if type = "nights_penalty" then some ["fee.nights"]
  else if type = "full_stay" then some []
  else none

/-- The types of fees that say how much a fee is, be it in other fields. -/
def FeeType.known : List String :=
  ["fixed_amount", "percentage", "percentage_or_nrf", "nights_penalty", "full_stay"]

/-- A type of fee with amounts is one that is known. -/
theorem FeeType.mem_known_of_amounts? {type : String} {amounts : List String}
    (h : amounts? type = some amounts) : type ∈ known := by
  unfold amounts? at h
  split at h
  · simp [known, *]
  · split at h
    · rename_i htype
      rcases htype with rfl | rfl <;> simp [known]
    · split at h
      · simp [known, *]
      · split at h
        · simp [known, *]
        · cases h

/-- Whether the fields are present that others call for. -/
structure Record.IsComplete (r : Record) : Prop where
  /-- A fixed amount has an amount and a currency. -/
  fixed_amount : r.text? "fee.type" = some "fixed_amount" →
    r.isPresent "fee.amount" = true ∧ r.isPresent "fee.currency" = true
  /-- A percentage has a percentage, also where cancellation is excluded. -/
  percentage : r.text? "fee.type" = some "percentage" ∨
    r.text? "fee.type" = some "percentage_or_nrf" → r.isPresent "fee.percent" = true
  /-- A penalty in nights has a number of nights. -/
  nights_penalty : r.text? "fee.type" = some "nights_penalty" → r.isPresent "fee.nights" = true
  /-- The date of a deadline has an hour and a minute. -/
  deadline : r.isPresent "deadline.date_ddmmmyy" = true →
    r.isPresent "deadline.local_hour" = true ∧ r.isPresent "deadline.local_minute" = true
  /-- There is no other type of fee but the full stay. -/
  known_type : ∀ v, r.get? "fee.type" = some v → ∃ type ∈ FeeType.known, v = .text type

namespace Summary

variable {r : Record} {p : String}

/-- A value is shown exactly if it is present. -/
theorem isSome_shown?_iff : (shown? r p).isSome ↔ r.isPresent p = true := by
  rw [shown?, Record.isPresent]
  cases r.get? p with
  | none => simp
  | some v => cases hv : v.isEmpty <;> simp [hv]

theorem exists_shown? (h : r.isPresent p = true) : ∃ s, shown? r p = some s :=
  Option.isSome_iff_exists.1 (isSome_shown?_iff.2 h)

/-! ### Fees -/

/-- Clauses that state a fee of a type from the fields of a record, none of which is missing. -/
inductive FeeClause (r : Record) : String → Summary → Prop where
  | fixed_amount {amount currency : String} (hamount : shown? r "fee.amount" = some amount)
      (hcurrency : shown? r "fee.currency" = some currency) :
    FeeClause r "fixed_amount"
      ⟨trimmed (amount ++ " " ++ currency) ++
          (if r.text? "fee.per_room" == some "true" then " per room" else ""),
        trimmed (currency ++ " " ++ amount) ++
          (if r.text? "fee.per_room" == some "true" then " 每间客房" else "")⟩
  | percentage {percent : String} (hpercent : shown? r "fee.percent" = some percent) :
    FeeClause r "percentage" ⟨percent ++ "% of the stay", "房费的 " ++ percent ++ "%"⟩
  | nights_penalty {nights : String} (hnights : shown? r "fee.nights" = some nights) :
    FeeClause r "nights_penalty" ⟨nights ++ " night penalty", "扣除 " ++ nights ++ " 晚房费"⟩
  | full_stay : FeeClause r "full_stay" ⟨"the full stay", "全额房费"⟩

/-- Of a complete record, a fee is stated from its fields. -/
theorem exists_feeClause (h : r.IsComplete) (hpresent : r.isPresent "fee.type" = true)
    (hne : r.text? "fee.type" ≠ some "percentage_or_nrf") :
    ∃ type clause, r.text? "fee.type" = some type ∧ FeeClause r type clause ∧
      feeByType? r type = some clause := by
  obtain ⟨v, hv⟩ : ∃ v, r.get? "fee.type" = some v := by
    rw [Record.isPresent] at hpresent
    split at hpresent
    · rename_i v hv
      exact ⟨v, hv⟩
    · cases hpresent
  obtain ⟨type, htype, rfl⟩ := h.known_type v hv
  have htext : r.text? "fee.type" = some type := by rw [Record.text?, hv]; rfl
  simp only [FeeType.known, List.mem_cons, List.not_mem_nil, or_false] at htype
  -- each of the known types but one has a clause, with what a complete record has for it
  rcases htype with rfl | rfl | rfl | rfl | rfl
  · obtain ⟨hamount, hcurrency⟩ := h.fixed_amount htext
    obtain ⟨amount, hamount⟩ := exists_shown? hamount
    obtain ⟨currency, hcurrency⟩ := exists_shown? hcurrency
    refine ⟨_, _, htext, .fixed_amount hamount hcurrency, ?_⟩
    simp [feeByType?, hamount, hcurrency]
  · obtain ⟨percent, hpercent⟩ := exists_shown? (h.percentage (.inl htext))
    refine ⟨_, _, htext, .percentage hpercent, ?_⟩
    simp [feeByType?, hpercent]
  · exact absurd htext hne
  · obtain ⟨nights, hnights⟩ := exists_shown? (h.nights_penalty htext)
    refine ⟨_, _, htext, .nights_penalty hnights, ?_⟩
    simp [feeByType?, hnights]
  · exact ⟨_, _, htext, .full_stay, by simp [feeByType?, FeeType.fullStay]⟩

/-- A fee that is stated ends the summary, unless cancellation is excluded. -/
theorem exists_front_of_fee? {fee : Summary} (hfee : fee? r = some fee)
    (hcancellable : r.text? "policy.cancellable" ≠ some "false") :
    ∃ front : Summary, ofRecord r =
      ⟨front.english ++ (feeSentence fee).english, front.chinese ++ (feeSentence fee).chinese⟩ := by
  rw [ofRecord, if_neg hcancellable, hfee]
  cases cutoff? r with
  | none =>
    refine ⟨⟨"", ""⟩, ?_⟩
    simp only [Option.map_none, Option.toList_none, Option.map_some, Option.toList_some,
      List.nil_append, List.map_singleton, String.intercalate_singleton, String.empty_append]
  | some c =>
    refine ⟨⟨(cutoffSentence c).english ++ " ", (cutoffSentence c).chinese ++ " "⟩, ?_⟩
    simp only [Option.map_some, Option.toList_some, List.singleton_append, List.map_cons,
      List.map_nil, String.intercalate_cons_cons, String.intercalate_singleton]

/-! ### Times of day -/

/-- The time of day of a deadline, if there is an hour. -/
def localTime? (r : Record) : Option String :=
  match r.number? "deadline.local_hour", r.number? "deadline.local_minute" with
  | some h, some m => some (twoPlaces h ++ ":" ++ twoPlaces m)
  | some h, none => some (twoPlaces h ++ ":00")
  | none, _ => shown? r "deadline.local_hour"

theorem localTime_eq (r : Record) : localTime r = (localTime? r).getD "23:59" := by
  unfold localTime localTime?
  cases r.number? "deadline.local_hour" with
  | none => simp only
  | some h => cases r.number? "deadline.local_minute" <;> simp only [Option.getD_some]

/-- Of a complete record, the deadline has a time of its own. -/
theorem exists_localTime? (h : r.IsComplete)
    (hdate : r.isPresent "deadline.date_ddmmmyy" = true) :
    ∃ time, localTime? r = some time ∧ localTime r = time := by
  obtain ⟨hour, hhour⟩ := exists_shown? (h.deadline hdate).1
  have hsome : ∃ time, localTime? r = some time := by
    unfold localTime?
    split
    · exact ⟨_, rfl⟩
    · exact ⟨_, rfl⟩
    · exact ⟨hour, hhour⟩
  obtain ⟨time, htime⟩ := hsome
  exact ⟨time, htime, by rw [localTime_eq, htime]; rfl⟩

end Summary

end CancellationPolicy
