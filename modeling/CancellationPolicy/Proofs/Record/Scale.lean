import CancellationPolicy.Proofs.Decimal.Normal
import CancellationPolicy.Proofs.Expression.Resolved
import CancellationPolicy.Proofs.Record.WellFormed
import CancellationPolicy.Settings.Basic
import CancellationPolicy.Summary

/-!
# Scales do not show

Two records are the same (`Record.Same`) if they hold the same texts and numbers of the same values
at the same paths, the numbers at any scales, and the same paths are flagged.  Whatever reads a
record reads a value at a path, and makes the same of values that are the same: it is empty or not,
it is shown in some way, it is a text or none, and it is written as a time of day
(`Record.Same.congr`).  So summaries, confidences and decisions are the same, and documents are if
the numbers are integers (`Record.writeAll_same`).
-/

namespace CancellationPolicy

/-! ### Values -/

namespace Value

variable {v w : Value}

/-- Whether a value is a text or an integer. -/
def isIntegral : Value → Bool
  | text _ => true
  | number x => x.isIntegral

theorem Same.display_eq (h : v.Same w) : v.display = w.display := by
  cases h with
  | text s => rfl
  | number h => rw [display, display, Decimal.normalize_eq_of_toRat_eq h]

theorem Same.isEmpty_eq (h : v.Same w) : v.isEmpty = w.isEmpty := by
  cases h <;> rfl

theorem Same.text?_eq (h : v.Same w) : v.text? = w.text? := by
  cases h <;> rfl

/-- The same integers have the same document. -/
theorem Same.toJson_eq (h : v.Same w) (hv : v.isIntegral = true) : v.toJson = w.toJson := by
  cases h with
  | text s => rfl
  | number h =>
    have hvalue := Decimal.toRat_of_isIntegral hv
    exact toJson_eq_of_toRat_eq hvalue (h ▸ hvalue)

/-- Numbers that are the same are written as the same part of a time of day. -/
theorem Same.twoPlaces_eq (h : v.Same w) :
    v.number?.map Summary.twoPlaces = w.number?.map Summary.twoPlaces := by
  cases h with
  | text s => rfl
  | number h =>
    simp only [number?, Option.map_some, Summary.twoPlaces, Decimal.normalize_eq_of_toRat_eq h]

end Value

/-! ### What fields show -/

namespace Summary

/-- What is shown is the value that is held, if it is not empty. -/
theorem shown?_eq_bind (r : Record) (p : String) :
    shown? r p = (r.get? p).bind fun v => if v.isEmpty then none else some v.display := by
  unfold shown?
  cases r.get? p <;> rfl

/-- A time of day is put together from its parts as they are written. -/
theorem localTime_eq_match (r : Record) :
    localTime r =
      match (r.number? "deadline.local_hour").map twoPlaces,
        (r.number? "deadline.local_minute").map twoPlaces with
      | some h, some m => h ++ ":" ++ m
      | some h, none => h ++ ":00"
      | none, _ => (shown? r "deadline.local_hour").getD "23:59" := by
  unfold localTime
  cases r.number? "deadline.local_hour" <;> cases r.number? "deadline.local_minute" <;> rfl

end Summary

/-! ### Records -/

namespace Record

/-- Whether two records hold values that are the same at the same paths, and flag the same paths. -/
structure Same (r r' : Record) : Prop where
  /-- The same paths hold values, which are the same. -/
  values : ∀ p, Option.Rel Value.Same (r.get? p) (r'.get? p)
  /-- The same paths are flagged. -/
  malformed : ∀ p, p ∈ r.malformed ↔ p ∈ r'.malformed

/-- Records whose leaves are the same one by one are the same. -/
theorem same_of_forall₂ {r r' : Record}
    (hleaves : List.Forall₂ (fun l l' => l.1 = l'.1 ∧ l.2.Same l'.2) r.leaves r'.leaves)
    (hflags : r.flags = r'.flags) : r.Same r' := by
  refine ⟨fun p => ?_, fun p => by rw [malformed, hflags, malformed]⟩
  unfold get?
  clear hflags
  revert hleaves
  generalize r.leaves = ls
  generalize r'.leaves = ls'
  intro hleaves
  -- both lists are searched in step
  induction hleaves with
  | nil => exact .none
  | cons hl _ ih =>
    rw [Keyed.find?, Keyed.find?, hl.1]
    split
    · exact .some hl.2
    · exact ih

/-! ### Reading -/

theorem isPresent_eq_any (r : Record) (p : String) :
    r.isPresent p = (r.get? p).any fun v => !v.isEmpty := by
  unfold isPresent
  cases r.get? p <;> rfl

namespace Same

variable {r r' : Record} (h : r.Same r')

include h

/-- What is the same for values that are the same is so for what paths hold. -/
theorem congr {β : Type} (f : Option Value → β) (hf : ∀ {v w}, v.Same w → f (some v) = f (some w))
    (p : String) : f (r.get? p) = f (r'.get? p) := by
  -- a path holds the same value in both, or nothing in either
  have hvalues := h.values p
  revert hvalues
  generalize r.get? p = a
  generalize r'.get? p = b
  rintro (hsame | _)
  · exact hf hsame
  · rfl

theorem text? (p : String) : r.text? p = r'.text? p :=
  h.congr (·.bind Value.text?) (fun hsame => hsame.text?_eq) p

theorem isPresent (p : String) : r.isPresent p = r'.isPresent p := by
  rw [isPresent_eq_any, isPresent_eq_any]
  exact h.congr (·.any fun v => !v.isEmpty) (fun hsame => congrArg not hsame.isEmpty_eq) p

theorem shown? (p : String) : Summary.shown? r p = Summary.shown? r' p := by
  rw [Summary.shown?_eq_bind, Summary.shown?_eq_bind]
  exact h.congr (·.bind fun v => if v.isEmpty then none else some v.display)
    (fun hsame => by simp only [Option.bind_some, hsame.isEmpty_eq, hsame.display_eq]) p

theorem twoPlaces (p : String) :
    (r.number? p).map Summary.twoPlaces = (r'.number? p).map Summary.twoPlaces :=
  h.congr (fun o => (o.bind Value.number?).map Summary.twoPlaces)
    (fun hsame => hsame.twoPlaces_eq) p

theorem hasMalformed : r.hasMalformed = r'.hasMalformed := by
  have hsome (r : Record) : r.hasMalformed = true ↔ ∃ p, p ∈ r.malformed := by
    rw [← List.isEmpty_eq_false_iff_exists_mem, Record.malformed, Keyed.names, List.isEmpty_map,
      Record.hasMalformed, Bool.not_eq_true']
  rw [Bool.eq_iff_iff, hsome, hsome]
  exact exists_congr h.malformed

/-! ### Summaries -/

theorem localTime : Summary.localTime r = Summary.localTime r' := by
  simp only [Summary.localTime_eq_match, h.twoPlaces, h.shown?]

theorem cutoff? : Summary.cutoff? r = Summary.cutoff? r' := by
  simp only [Summary.cutoff?, h.shown?, h.localTime]

theorem fee? : Summary.fee? r = Summary.fee? r' := by
  simp only [Summary.fee?, Summary.feeByType?, Summary.taxNote, h.shown?, h.text?]

theorem summary : Summary.ofRecord r = Summary.ofRecord r' := by
  simp only [Summary.ofRecord, h.text?, h.cutoff?, h.fee?]

/-! ### Scores -/

theorem tally (settings : Confidence.Settings Single) :
    Confidence.tally settings r = Confidence.tally settings r' := by
  have hadd : Confidence.Tally.add settings r = Confidence.Tally.add settings r' := by
    funext t field
    simp only [Confidence.Tally.add, h.isPresent]
  rw [Confidence.tally, Confidence.tally, hadd]

theorem penalties (settings : Confidence.Settings Single) :
    Confidence.penaltiesOf settings r = Confidence.penaltiesOf settings r' := by
  simp only [Confidence.penaltiesOf, h.text?, h.hasMalformed]

theorem confidence (settings : Confidence.Settings Single) (spans : List Span) (text : String) :
    Confidence.score settings r spans text = Confidence.score settings r' spans text := by
  rw [Confidence.score, h.tally, h.penalties, Confidence.score]

theorem decision (settings : Decision.Settings Single) (spans : List Span) (text : String) :
    Decision.ofRecord settings r spans text = Decision.ofRecord settings r' spans text := by
  have hsignal : (fun s : Signal => s.isPresent r) = fun s => s.isPresent r' := by
    funext s
    have hany : r.isPresent = r'.isPresent := funext h.isPresent
    simp only [Signal.isPresent, Signal.hasFullStayFee, hany, h.text?]
  simp only [Decision.ofRecord, hsignal]

/-! ### Leaves -/

/-- What is the same for the values of two records of different paths is so leaf by leaf. -/
theorem map_leaves (hr : r.WellFormed) (hr' : r'.WellFormed) {β : Type} (f : Value → β)
    (hf : ∀ l ∈ r.leaves, ∀ w, l.2.Same w → f l.2 = f w) :
    r.leaves.map (fun l => (l.1, f l.2)) = r'.leaves.map fun l => (l.1, f l.2) := by
  refine Keyed.eq_of_find? (Keyed.sorted_map hr.sorted f) (Keyed.sorted_map hr'.sorted f)
    fun p => ?_
  rw [Keyed.find?_map, Keyed.find?_map]
  show (r.get? p).map f = (r'.get? p).map f
  have hvalues := h.values p
  cases hv : r.get? p with
  | none =>
    rw [hv] at hvalues
    cases hv' : r'.get? p with
    | none => rfl
    | some w =>
      rw [hv'] at hvalues
      cases hvalues
  | some v =>
    rw [hv] at hvalues
    cases hv' : r'.get? p with
    | none =>
      rw [hv'] at hvalues
      cases hvalues
    | some w =>
      rw [hv'] at hvalues
      obtain ⟨hsame⟩ := hvalues
      exact congrArg some (hf (p, v) (Keyed.mem_of_find?_eq_some hv) w hsame)

/-- The documents of records that hold texts and integers are the same. -/
theorem toJson (hr : r.WellFormed) (hr' : r'.WellFormed)
    (hintegral : ∀ l ∈ r.leaves, l.2.isIntegral = true) : r.toJson = r'.toJson := by
  have hjson (r : Record) : r.toJson = .object ((r.leaves.map fun l => (l.1, l.2.toJson)).foldl
      (fun ms l => place l.2 (Path.segments l.1) ms) []) := by
    rw [Record.toJson, List.foldl_map]
  rw [hjson, hjson r', h.map_leaves hr hr' Value.toJson fun l hl w hsame =>
    hsame.toJson_eq (hintegral l hl)]

end Same

/-! ### Records that writes have built -/

/-- Take two records that writes have built, with the same texts and numbers of the same values at
the same paths, at any scales, and with the same flags.  Then their summaries are the same, and so
are their leaves as they are shown, the integers among them as they stand in documents, the
documents if all numbers are integers, and the confidence and the decision of any settings for any
spans of any text. -/
theorem writeAll_same (fields fields' : List (String × Value))
    (h : (new.writeAll fields).Same (new.writeAll fields')) :
    let r := new.writeAll fields
    let r' := new.writeAll fields'
    Summary.ofRecord r = Summary.ofRecord r' ∧
      r.leaves.map (fun l => (l.1, l.2.display)) = r'.leaves.map (fun l => (l.1, l.2.display)) ∧
      (∀ p x y, r.get? p = some (.number x) → r'.get? p = some (.number y) →
        x.isIntegral = true → (Value.number x).toJson = (Value.number y).toJson) ∧
      ((∀ l ∈ r.leaves, l.2.isIntegral = true) → r.toJson = r'.toJson) ∧
      ∀ (s : Settings) (spans : List Span) (text : String),
        Confidence.score s.confidence r spans text =
          Confidence.score s.confidence r' spans text ∧
        Decision.ofRecord s.decision r spans text = Decision.ofRecord s.decision r' spans text := by
  intro r r'
  have hr : r.WellFormed := wellFormed_writeAll fields
  have hr' : r'.WellFormed := wellFormed_writeAll fields'
  refine ⟨h.summary, ?_, ?_, h.toJson hr hr', ?_⟩
  · exact h.map_leaves hr hr' Value.display fun l _ w hsame => hsame.display_eq
  · intro p x y hx hy hintegral
    have hvalues := h.values p
    rw [hx, hy] at hvalues
    obtain ⟨hsame⟩ := hvalues
    exact hsame.toJson_eq hintegral
  · exact fun s spans text => ⟨h.confidence _ spans text, h.decision _ spans text⟩

/-- A time of day and a percentage without places behind the point. -/
def shortFields : List (String × Value) :=
  [("deadline.date_ddmmmyy", .text "12MAR25"), ("deadline.local_hour", .number (.ofNat 6)),
    ("fee.percent", .number (.ofNat 75)), ("fee.type", .text "percentage")]

/-- The same with places behind the point, one number read from a text. -/
def longFields : List (String × Value) :=
  [("fee.percent", .text "75.00%"), ("fee.type", .text "percentage"),
    ("deadline.date_ddmmmyy", .text "12MAR25"),
    ("deadline.local_hour", .number ⟨false, 60, 1, by decide, by decide⟩)]

/-- Hours and percentages with more places than needed make no difference. -/
theorem writeAll_same_longFields :
    (new.writeAll shortFields).Same (new.writeAll longFields) ∧
    new.writeAll shortFields ≠ new.writeAll longFields ∧
    Summary.ofRecord (new.writeAll shortFields) = Summary.ofRecord (new.writeAll longFields) ∧
    (new.writeAll shortFields).toJson = (new.writeAll longFields).toJson := by
  have hshort : (new.writeAll shortFields).leaves =
      [("deadline.date_ddmmmyy", .text "12MAR25"), ("deadline.local_hour", .number (.ofNat 6)),
        ("fee.percent", .number (.ofNat 75)), ("fee.type", .text "percentage")] := by
    decide +kernel
  have hlong : (new.writeAll longFields).leaves =
      [("deadline.date_ddmmmyy", .text "12MAR25"),
        ("deadline.local_hour", .number ⟨false, 60, 1, by decide, by decide⟩),
        ("fee.percent", .number ⟨false, 7500, 2, by decide, by decide⟩),
        ("fee.type", .text "percentage")] := by
    decide +kernel
  have hsame : (new.writeAll shortFields).Same (new.writeAll longFields) := by
    refine same_of_forall₂ ?_ (by decide +kernel)
    rw [hshort, hlong]
    exact .cons ⟨rfl, .text _⟩ (.cons ⟨rfl, .number (by decide +kernel)⟩
      (.cons ⟨rfl, .number (by decide +kernel)⟩ (.cons ⟨rfl, .text _⟩ .nil)))
  have hintegral : ∀ l ∈ (new.writeAll shortFields).leaves, l.2.isIntegral = true := by
    decide +kernel
  obtain ⟨hsummary, -, -, hjson, -⟩ := writeAll_same shortFields longFields hsame
  exact ⟨hsame, by decide +kernel, hsummary, hjson hintegral⟩

end Record

end CancellationPolicy
