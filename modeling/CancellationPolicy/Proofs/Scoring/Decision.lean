import CancellationPolicy.Proofs.Floating.Order
import CancellationPolicy.Scoring.Decision

/-!
# More evidence does not turn an acceptance down

A record that keeps the values of another has its signals (`Decision.signals_sublist`).  With a
coverage that is not lower, it is accepted if the other is (`Decision.isAccepted_of_isAccepted`),
whatever the settings of the decision are.
-/

namespace CancellationPolicy

/-- Whether a record holds every value of another one at the same path. -/
def Record.Keeps (r' r : Record) : Prop := ∀ p v, r.get? p = some v → r'.get? p = some v

variable {r r' : Record}

/-! ### Signals -/

/-- What is present stays present. -/
theorem Record.Keeps.isPresent (h : r'.Keeps r) {p : String} (hp : r.isPresent p = true) :
    r'.isPresent p = true := by
  rw [Record.isPresent] at hp ⊢
  cases hv : r.get? p with
  | none =>
    rw [hv] at hp
    cases hp
  | some v =>
    rw [hv] at hp
    rw [h p v hv]
    exact hp

theorem Record.Keeps.text? (h : r'.Keeps r) {p s : String} (hp : r.text? p = some s) :
    r'.text? p = some s := by
  obtain ⟨v, hv, hs⟩ := Option.bind_eq_some_iff.1 hp
  exact Option.bind_eq_some_iff.2 ⟨v, h p v hv, hs⟩

/-- A signal that is present stays present. -/
theorem Signal.isPresent_of_keeps (h : r'.Keeps r) {s : Signal} (hs : s.isPresent r = true) :
    s.isPresent r' = true := by
  rw [isPresent, Bool.or_eq_true, List.any_eq_true, Bool.and_eq_true] at hs ⊢
  rcases hs with ⟨p, hp, hpresent⟩ | ⟨hfee, hfull⟩
  · exact .inl ⟨p, hp, h.isPresent hpresent⟩
  · -- the kind of a fee is a text of the record, which stays as it is
    refine .inr ⟨hfee, ?_⟩
    rw [hasFullStayFee, Option.any_eq_true] at hfull ⊢
    obtain ⟨t, ht, hfull⟩ := hfull
    exact ⟨t, h.text? ht, hfull⟩

/-! ### Decisions -/

namespace Decision

variable {f : Binary.Format} {settings : Settings (Binary f)} {ss ts : List Span} {text : String}

theorem signals_sublist (h : r'.Keeps r) (settings : Settings (Binary f)) (ss ts : List Span)
    (text : String) :
    (ofRecord settings r ss text).signals.Sublist (ofRecord settings r' ts text).signals :=
  List.monotone_filter_right _ fun _ => Signal.isPresent_of_keeps h

/-- What is accepted stays accepted, with no less coverage. -/
theorem isAccepted_of_isAccepted (h : r'.Keeps r)
    (hle : (ofRecord settings r ss text).coverage ≤ (ofRecord settings r' ts text).coverage)
    (haccepted : (ofRecord settings r ss text).isAccepted = true) :
    (ofRecord settings r' ts text).isAccepted = true := by
  have hsignals := (signals_sublist h settings ss ts text).length_le
  simp only [ofRecord, Bool.and_eq_true, decide_eq_true_eq] at haccepted ⊢
  exact ⟨Binary.le_trans haccepted.1 hle, Nat.le_trans haccepted.2 hsignals⟩

end Decision

end CancellationPolicy
