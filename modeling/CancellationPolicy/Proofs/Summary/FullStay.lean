import CancellationPolicy.Extraction.Basic
import CancellationPolicy.Proofs.Decimal.Printing
import CancellationPolicy.Proofs.Summary
import CancellationPolicy.Proofs.Text.Trim
import CancellationPolicy.Scoring.Decision
import Mathlib.Data.List.Infix

/-!
# Fees of the full stay in decisions and in summaries

Decisions and summaries know the types of fees that stand for the full stay by texts.  A decision
passes over the case of ASCII letters, but a summary does not.  So, where a record has no amount of
a fee, both speak of a fee of the full stay together exactly if its type is spelled as it is listed
(`Summary.isPresent_fee_iff_endsWith`).  Passages of a text are found in capitals, and are not
(`Summary.not_endsWith_capitals`).

That a summary ends with the sentence about the full stay is compared with everything else that it
can end with.  A text of the record that stands last does so in both languages, where that sentence
ends differently.
-/

namespace CancellationPolicy

/-! ### Ends of texts -/

theorem eq_of_suffix_of_length {l a b : List Char} (ha : a <:+ l) (hb : b <:+ l)
    (hlength : a.length = b.length) : a = b :=
  (List.suffix_of_suffix_length_le ha hb hlength.le).eq_of_length hlength

theorem suffix_toList_append {s : String} {a : List Char} (h : a <:+ s.toList) (k : String) :
    a <:+ (k ++ s).toList := by
  rw [String.toList_append]
  exact List.suffix_append_of_suffix h

/-- An end of the whole has the last character of the last part. -/
theorem getLast?_of_suffix_append {a : List Char} {k s : String} (h : a <:+ (k ++ s).toList)
    (ha : a ≠ []) (hs : s.toList ≠ []) : s.toList.getLast? = a.getLast? := by
  obtain ⟨l, hl⟩ := h
  have hlast := congrArg List.getLast? hl
  rw [String.toList_append, List.getLast?_append_of_ne_nil _ ha,
    List.getLast?_append_of_ne_nil _ hs] at hlast
  exact hlast.symm

namespace Summary

variable {r : Record}

/-- Whether a summary ends with a clause, in both languages. -/
def EndsWith (s clause : Summary) : Prop :=
  clause.english.toList <:+ s.english.toList ∧ clause.chinese.toList <:+ s.chinese.toList

instance (s clause : Summary) : Decidable (s.EndsWith clause) := inferInstanceAs (Decidable (_ ∧ _))

/-- What a cancellation costs if it costs the full stay. -/
def fullStayFee (r : Record) : Summary :=
  ⟨"the full stay" ++ (taxNote r).english, "全额房费" ++ (taxNote r).chinese⟩

/-- What a fee of the full stay may end with in both languages, by what is said about taxes. -/
def fullStayEnds : List (String × String) := [("ay", "费"), ("s)", "）")]

/-- A fee of the full stay has one of the ends, in both languages. -/
theorem exists_end_of_fullStayFee (r : Record) :
    ∃ p ∈ fullStayEnds, p.1.toList <:+ (fullStayFee r).english.toList ∧
      p.2.toList <:+ (fullStayFee r).chinese.toList := by
  unfold fullStayFee taxNote
  dsimp only
  split
  · exact ⟨_, .tail _ (.head _), by decide, by decide⟩
  split
  · exact ⟨_, .tail _ (.head _), by decide, by decide⟩
  · exact ⟨_, .head _, by decide, by decide⟩

/-! ### Other sentences -/

section

variable {ends : String × String} {k k' : String}

/-- A text that ends as a fee of the full stay has no other end of the same length. -/
theorem not_suffix_of_end (hends : ends ∈ fullStayEnds) {a l : List Char}
    (h : ends.1.toList <:+ l) (ha : a <:+ l)
    (hne : ∀ e ∈ fullStayEnds, e.1.toList.length = a.length ∧ e.1.toList ≠ a) : False :=
  (hne ends hends).2 (eq_of_suffix_of_length h ha (hne ends hends).1)

/-- No text stands last in both languages where these end as with a fee of the full stay. -/
theorem eq_empty_of_ends (hends : ends ∈ fullStayEnds) {s : String}
    (h : ends.1.toList <:+ (k ++ s).toList) (h' : ends.2.toList <:+ (k' ++ s).toList) :
    s = "" := by
  have hall : ∀ e ∈ fullStayEnds, e.1.toList ≠ [] ∧ e.2.toList ≠ [] ∧
      e.1.toList.getLast? ≠ e.2.toList.getLast? := by decide
  obtain ⟨hne, hne', hlast⟩ := hall ends hends
  by_contra hs
  rw [← String.toList_eq_nil_iff] at hs
  refine hlast ?_
  rw [← getLast?_of_suffix_append h hne hs, getLast?_of_suffix_append h' hne' hs]

/-- Nothing that is shown is empty. -/
theorem ne_empty_of_shown? {path s : String} (h : shown? r path = some s) : s ≠ "" := by
  rw [shown?] at h
  split at h
  · split at h
    · cases h
    · rename_i v _ hv
      obtain rfl := Option.some.inj h
      cases v with
      | text s =>
        rintro rfl
        exact hv rfl
      | number n =>
        intro hnil
        exact n.normalize.writes_toText.ne_nil (String.toList_eq_nil_iff.2 hnil)
  · cases h

/-- What is said about free cancellation does not end as a fee of the full stay. -/
theorem not_ends_of_cutoff? {c : Summary} (h : cutoff? r = some c) (hends : ends ∈ fullStayEnds)
    (hend : ends.1.toList <:+ (k ++ c.english).toList)
    (hend' : ends.2.toList <:+ (k' ++ c.chinese).toList) : False := by
  rw [cutoff?] at h
  split at h
  · rename_i iso hiso
    obtain rfl := Option.some.inj h
    dsimp only at hend hend'
    rw [← String.append_assoc] at hend hend'
    exact ne_empty_of_shown? hiso (eq_empty_of_ends hends hend hend')
  split at h
  · obtain rfl := Option.some.inj h
    exact not_suffix_of_end hends hend (a := "e)".toList)
      (suffix_toList_append (suffix_toList_append (by decide) _) _) (by decide)
  split at h
  · obtain rfl := Option.some.inj h
    exact not_suffix_of_end hends hend (a := "al".toList)
      (suffix_toList_append (suffix_toList_append (by decide) _) _) (by decide)
  · cases h

/-! ### Other fees -/

theorem isBlank_of_mem_blank : ∀ c ∈ " ".toList, isBlank c = true :=
  List.forall_mem_singleton.2 (by decide)

theorem trimmed_blank_append (s : String) : trimmed (" " ++ s) = trimmed s := by
  rw [trimmed, String.toList_append, Text.trim_blanks_append isBlank_of_mem_blank, trimmed]

theorem trimmed_append_blank (s : String) : trimmed (s ++ " ") = trimmed s := by
  rw [trimmed, String.toList_append, Text.trim_append_of_blanks isBlank_of_mem_blank, trimmed]

/-- Without a number of nights, an amount or a percentage no fee of another type ends as one of the
full stay, taxes left out, where it stands behind a blank. -/
theorem not_ends_of_feeByType? (habsent : ∀ p ∈ Signal.fee.fields, r.isPresent p = false)
    {type : String} {fee : Summary} (h : feeByType? r type = some fee)
    (htype : type ∉ FeeType.fullStay) (hk : " ".toList <:+ k.toList)
    (hend : "ay".toList <:+ (k ++ fee.english).toList)
    (hend' : "费".toList <:+ (k' ++ fee.chinese).toList) : False := by
  have hends : ("ay", "费") ∈ fullStayEnds := .head _
  have hnone {p : String} (hp : p ∈ Signal.fee.fields) : shown? r p = none := by
    rw [← Option.not_isSome_iff_eq_none, isSome_shown?_iff, habsent p hp]
    exact Bool.false_ne_true
  rw [feeByType?] at h
  split at h
  · obtain rfl := Option.some.inj h
    dsimp only at hend hend'
    rw [hnone (.head _), Option.getD_none, String.empty_append, trimmed_blank_append] at hend
    rw [hnone (.head _), Option.getD_none, String.append_empty, trimmed_append_blank] at hend'
    by_cases hroom : (r.text? "fee.per_room" == some "true") = true
    · rw [if_pos hroom] at hend
      exact not_suffix_of_end hends hend (a := "om".toList)
        (suffix_toList_append (suffix_toList_append (by decide) _) _) (by decide)
    · -- what is left is the currency in both languages, and without it the blank in front
      rw [if_neg hroom, String.append_empty] at hend hend'
      rw [eq_empty_of_ends hends hend hend', String.append_empty] at hend
      have hblank : "y".toList <:+ k.toList :=
        List.IsSuffix.trans (by decide : "y".toList <:+ "ay".toList) hend
      have hsame : "y".toList = " ".toList := eq_of_suffix_of_length hblank hk (by decide)
      exact absurd hsame (by decide)
  split at h
  · obtain rfl := Option.some.inj h
    exact not_suffix_of_end hends hend (a := "ty".toList)
      (suffix_toList_append (suffix_toList_append (by decide) _) _) (by decide)
  split at h
  · rw [hnone (.tail _ (.tail _ (.head _)))] at h
    cases h
  split at h
  · rename_i hmem
    exact htype (List.contains_iff_mem.1 hmem)
  · cases h

end

/-! ### Fees of the full stay -/

/-- A fee of a listed type is one of the full stay. -/
theorem fee?_of_mem_fullStay {type : String} (htype : r.text? "fee.type" = some type)
    (hmem : type ∈ FeeType.fullStay) : fee? r = some (fullStayFee r) := by
  have hfee : feeByType? r type = some ⟨"the full stay", "全额房费"⟩ := by
    rcases List.mem_cons.1 hmem with rfl | hmem
    · rfl
    · rw [List.mem_singleton.1 hmem]
      rfl
  rw [fee?, htype]
  simp only [hfee, Option.map_some, fullStayFee]

theorem exists_of_fee? {fee : Summary} (h : fee? r = some fee) :
    ∃ type clause, r.text? "fee.type" = some type ∧ feeByType? r type = some clause ∧
      fee = ⟨clause.english ++ (taxNote r).english, clause.chinese ++ (taxNote r).chinese⟩ := by
  rw [fee?] at h
  split at h
  · rename_i type htype
    obtain ⟨clause, hclause, rfl⟩ := Option.map_eq_some_iff.1 h
    exact ⟨type, clause, htype, hclause, rfl⟩
  · cases h

/-- Without a fee the sentence about free cancellation stands last, if there is one. -/
theorem ofRecord_of_fee?_eq_none (hcancellable : r.text? "policy.cancellable" ≠ some "false")
    (h : fee? r = none) : ofRecord r = ((cutoff? r).map cutoffSentence).getD ⟨"", ""⟩ := by
  rw [ofRecord, if_neg hcancellable, h]
  cases cutoff? r with
  | none => rfl
  | some c => simp

/-- Behind the same end, an end of the one text is one of the other. -/
theorem ends_of_suffix {a s t : String} {e : List Char} (he : e <:+ a.toList)
    (h : (a ++ t).toList <:+ (s ++ t).toList) : e <:+ s.toList := by
  rw [String.toList_append, String.toList_append, List.suffix_append_self_iff] at h
  exact he.trans h

/-- Of two sentences about fees that end in the same way the fees do, taxes left out. -/
theorem ends_of_sentence {front start fee fee' tax stop : String} {e : List Char}
    (he : e <:+ fee.toList)
    (h : (start ++ (fee ++ tax) ++ stop).toList <:+
      (front ++ (start ++ (fee' ++ tax) ++ stop)).toList) :
    e <:+ (front ++ start ++ fee').toList := by
  have hsentence : start ++ (fee ++ tax) ++ stop = start ++ fee ++ (tax ++ stop) := by
    simp only [String.append_assoc]
  have hsummary : front ++ (start ++ (fee' ++ tax) ++ stop) =
      front ++ start ++ fee' ++ (tax ++ stop) := by
    simp only [String.append_assoc]
  rw [hsentence, hsummary] at h
  exact ends_of_suffix (suffix_toList_append he start) h

/-- The summary of a record without an amount of a fee ends with the sentence about the full stay
exactly if the type of the fee is listed. -/
theorem endsWith_fullStay_iff (hcancellable : r.text? "policy.cancellable" ≠ some "false")
    (habsent : ∀ p ∈ Signal.fee.fields, r.isPresent p = false) :
    (ofRecord r).EndsWith (feeSentence (fullStayFee r)) ↔
      ∃ type ∈ FeeType.fullStay, r.text? "fee.type" = some type := by
  obtain ⟨ends, hends, hstay, hstay'⟩ := exists_end_of_fullStayFee r
  constructor
  · rintro ⟨hend, hend'⟩
    -- the summary ends with the fee if there is one, else with what is said about free cancellation
    cases hfee : fee? r with
    | none =>
      rw [ofRecord_of_fee?_eq_none hcancellable hfee] at hend hend'
      cases hcutoff : cutoff? r with
      | none =>
        rw [hcutoff] at hend
        have hdot : ".".toList <:+ "".toList :=
          List.IsSuffix.trans (suffix_toList_append List.suffix_rfl _) hend
        exact absurd hdot (by decide)
      | some c =>
        rw [hcutoff] at hend hend'
        exact (not_ends_of_cutoff? hcutoff hends
          (ends_of_suffix (suffix_toList_append hstay _) hend)
          (ends_of_suffix (suffix_toList_append hstay' _) hend')).elim
    | some fee =>
      obtain ⟨front, hfront⟩ := exists_front_of_fee? hfee hcancellable
      obtain ⟨type, clause, htype, hclause, rfl⟩ := exists_of_fee? hfee
      rw [hfront] at hend hend'
      refine ⟨type, ?_, htype⟩
      -- the clause of another type has no amounts here, so it does not end as a full stay
      by_contra hmem
      have hblank : " ".toList <:+ (front.english ++
          "After the deadline, cancellation incurs a penalty of ").toList :=
        suffix_toList_append (by decide) _
      exact not_ends_of_feeByType? habsent hclause hmem hblank
        (ends_of_sentence (by decide) hend) (ends_of_sentence (by decide) hend')
  · rintro ⟨type, hmem, htype⟩
    obtain ⟨front, hfront⟩ :=
      exists_front_of_fee? (fee?_of_mem_fullStay htype hmem) hcancellable
    rw [hfront, EndsWith]
    exact ⟨suffix_toList_append List.suffix_rfl _, suffix_toList_append List.suffix_rfl _⟩

/-! ### Signals -/

theorem isFullStay_of_mem {type : String} (h : type ∈ FeeType.fullStay) :
    FeeType.isFullStay type = true :=
  List.any_eq_true.2 ⟨type, h, beq_self_eq_true _⟩

/-- Without an amount of a fee it is the type that makes the signal. -/
theorem isPresent_fee_iff (habsent : ∀ p ∈ Signal.fee.fields, r.isPresent p = false) :
    Signal.fee.isPresent r = true ↔
      ∃ type, r.text? "fee.type" = some type ∧ FeeType.isFullStay type = true := by
  have hany : Signal.fee.fields.any r.isPresent = false := by
    rw [List.any_eq_false]
    exact fun p hp => by rw [habsent p hp]; exact Bool.false_ne_true
  rw [Signal.isPresent, hany, Bool.false_or, beq_self_eq_true, Bool.true_and,
    Signal.hasFullStayFee, Option.any_eq_true]

/-- Take a record without an amount of a fee whose policy does not exclude cancellation.  It has the
signal of a fee exactly if the type of the fee agrees with a listed one up to the case of ASCII
letters, and its summary ends with the sentence about the full stay, in both languages, exactly if
the type is a listed one.  So both agree exactly if the type is not a listed one in another
spelling. -/
theorem isPresent_fee_iff_endsWith (hcancellable : r.text? "policy.cancellable" ≠ some "false")
    (habsent : ∀ p ∈ Signal.fee.fields, r.isPresent p = false) :
    (Signal.fee.isPresent r = true ↔
      ∃ type, r.text? "fee.type" = some type ∧ FeeType.isFullStay type = true) ∧
    ((ofRecord r).EndsWith (feeSentence (fullStayFee r)) ↔
      ∃ type ∈ FeeType.fullStay, r.text? "fee.type" = some type) ∧
    ((Signal.fee.isPresent r = true ↔ (ofRecord r).EndsWith (feeSentence (fullStayFee r))) ↔
      ∀ type, r.text? "fee.type" = some type → FeeType.isFullStay type = true →
        type ∈ FeeType.fullStay) := by
  have hsignal := isPresent_fee_iff habsent
  -- the signal ignores case and the summary does not, so they agree where the spelling is the
  -- listed one
  have hsummary := endsWith_fullStay_iff hcancellable habsent
  refine ⟨hsignal, hsummary, ?_⟩
  rw [hsignal, hsummary]
  constructor
  · intro hagree type htype hfull
    obtain ⟨listed, hmem, hlisted⟩ := hagree.1 ⟨type, htype, hfull⟩
    obtain rfl := Option.some.inj (htype.symm.trans hlisted)
    exact hmem
  · intro hspelling
    constructor
    · rintro ⟨type, htype, hfull⟩
      exact ⟨type, hspelling type htype hfull, htype⟩
    · rintro ⟨type, hmem, htype⟩
      exact ⟨type, htype, isFullStay_of_mem hmem⟩

/-- A fee of the full stay with taxes. -/
def taxedStay : Record :=
  Record.new.writeAll [("deadline.iso", .text "2025-01-01T12:00"), ("fee.type", .text "full_stay"),
    ("fee.tax_scope", .text "included")]

/-- A full stay with taxes in its spelling is a signal, and is said. -/
theorem isPresent_fee_iff_endsWith_taxedStay :
    taxedStay.text? "policy.cancellable" ≠ some "false" ∧
    (∀ p ∈ Signal.fee.fields, taxedStay.isPresent p = false) ∧
    Signal.fee.isPresent taxedStay = true ∧
    (ofRecord taxedStay).EndsWith (feeSentence (fullStayFee taxedStay)) := by
  have hcancellable : taxedStay.text? "policy.cancellable" ≠ some "false" := by decide +kernel
  have habsent : ∀ p ∈ Signal.fee.fields, taxedStay.isPresent p = false := by decide +kernel
  obtain ⟨hsignal, hsummary, -⟩ := isPresent_fee_iff_endsWith hcancellable habsent
  have htype : taxedStay.text? "fee.type" = some "full_stay" := by decide +kernel
  exact ⟨hcancellable, habsent, hsignal.2 ⟨_, htype, by decide⟩,
    hsummary.2 ⟨_, by decide, htype⟩⟩

/-- The type of a fee that a rule finds stands in capitals.  The record has the signal of a fee, and
its summary says nothing. -/
theorem not_endsWith_capitals :
    let r := Record.new.write "fee.type" (.text "FULL_STAY")
    ((Rule.build "type" 1 "FEE TYPE (?P<type>[A-Z_]+)"
        (some [.ofTemplate "fee.type" "$type"])).toOption.map fun rule =>
      (Rule.applyAll [rule] (canonical "Fee type full_stay")).record) = some r ∧
    r.text? "policy.cancellable" ≠ some "false" ∧
    (∀ p ∈ Signal.fee.fields, r.isPresent p = false) ∧
    Signal.fee.isPresent r = true ∧ ofRecord r = ⟨"", ""⟩ ∧
    ¬(ofRecord r).EndsWith (feeSentence (fullStayFee r)) := by
  decide +kernel

end Summary

end CancellationPolicy
