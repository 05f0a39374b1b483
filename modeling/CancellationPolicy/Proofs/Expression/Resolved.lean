import CancellationPolicy.Proofs.Decimal.Printing
import CancellationPolicy.Proofs.Expression

/-!
# Values that are resolved again

The value of an expression, shown to a reader and taken in by a reference, is the same value
(`resolve?_display`).

A text that an expression is worth has no blanks at its ends, and it is worth what it is because it
is neither a call nor an amount; read once more it is neither of them still (`literalValue?_text`).
The text of a number has none of the characters that mark a call or blanks, so it is read as an
amount, and as one of the same value (`literalValue?_toText`).
-/

namespace CancellationPolicy

/-! ### Values that are the same -/

/-- Whether two values are of one kind, and hold the same text or the same number, at whatever
scale. -/
inductive Value.Same : Value → Value → Prop where
  /-- A text is the same as itself alone. -/
  | text (s : String) : Same (.text s) (.text s)
  /-- Numbers are the same if they have one value. -/
  | number {x y : Decimal} (h : x.toRat = y.toRat) : Same (.number x) (.number y)

namespace Expression

variable {captures : Captures} {cs : List Char} {s : String} {v : Value}

/-! ### Texts -/

theorem literalValue?_text (h : literalValue? cs = some (.text s)) :
    literalValue? s.toList = some (.text s) := by
  rw [(toList_of_literalValue? h).1, literalValue?_trim, h]

/-! ### Numbers -/

/-- No character of an amount is a mark. -/
theorem not_mem_marks_of_writes {negative : Bool} {whole fraction : List Char}
    (h : Amount.Writes cs negative whole fraction) : ∀ c ∈ cs, c.toNat ∉ marks := by
  have hrange : ∀ n < 58, 43 ≤ n → n ∉ marks := by decide
  intro c hc
  rcases h.mem c hc with hdigit | hmem
  · rw [Amount.isDigit, Bool.and_eq_true, decide_eq_true_eq, decide_eq_true_eq] at hdigit
    have hle : c.toNat ≤ 57 := UInt32.le_iff_toNat_le.1 hdigit.2
    have hge : 48 ≤ c.toNat := UInt32.le_iff_toNat_le.1 hdigit.1
    exact hrange c.toNat (by omega) (by omega)
  · simp only [List.mem_cons, List.not_mem_nil, or_false] at hmem
    rcases hmem with rfl | rfl | rfl | rfl <;> decide

theorem literalValue?_toText (x : Decimal) :
    ∃ y : Decimal, literalValue? x.toText.toList = some (.number y) ∧ y.toRat = x.toRat := by
  obtain ⟨y, hy, hvalue⟩ := Amount.exists_parse?_toText x
  have hwrites := x.writes_toText
  refine ⟨y, ?_, hvalue⟩
  rw [literalValue?_of_unmarked hwrites.ne_nil (not_mem_marks_of_writes hwrites),
    String.ofList_toList, hy]
  rfl

/-! ### Values -/

/-- The value of an expression is that of a literal. -/
theorem exists_literalValue?_of_resolve? {e : Expression} (h : e.resolve? captures = some v) :
    ∃ cs, literalValue? cs = some v := by
  obtain ⟨term, -, hterm⟩ := exists_term_of_resolve? h
  unfold termValue? at hterm
  split at hterm
  · exact ⟨_, hterm⟩
  · cases hterm

/-- What a value is shown as is worth the value. -/
theorem exists_literalValue?_display (h : literalValue? cs = some v) :
    ∃ w, literalValue? v.display.toList = some w ∧ v.Same w := by
  cases v with
  | text s => exact ⟨.text s, literalValue?_text h, .text s⟩
  | number x =>
    obtain ⟨y, hy, hvalue⟩ := literalValue?_toText x.normalize
    exact ⟨.number y, hy, .number (by rw [hvalue, x.toRat_normalize])⟩

theorem display_ne_empty (h : literalValue? cs = some v) : v.display ≠ "" := by
  cases v with
  | text s => exact (toList_of_literalValue? h).2.1
  | number x =>
    intro hempty
    have hne := x.normalize.writes_toText.ne_nil
    rw [show x.normalize.toText = "" from hempty] at hne
    exact hne rfl

/-- A reference is worth what the part is as a text, if that is not empty. -/
theorem resolve?_reference (hs : s ≠ "") (hcaptures : Keyed.find? "x" captures = some s) :
    (parse "$x").resolve? captures = literalValue? s.toList := by
  have hterms : (parse "$x").terms = ["$x"] := by decide
  have hreference : reference? "$x" = some "x" := by decide
  have hvalue : (Piece.reference "x").value? captures = some s.toList := by
    simp [Piece.value?, hcaptures, hs]
  rw [resolve?_eq_findSome?, hterms, List.findSome?_singleton, termValue?_of_reference hreference,
    hvalue]
  rfl

/-- The value of any expression is the same if it is shown, taken for a part of a match and referred
to: a text is this text again, and a number is a number of the same value. -/
theorem resolve?_display (template : String) (captures others : Captures) (v : Value)
    (h : (parse template).resolve? captures = some v) :
    ∃ w, (parse "$x").resolve? (Keyed.insert "x" v.display others) = some w ∧ v.Same w := by
  obtain ⟨cs, hcs⟩ := exists_literalValue?_of_resolve? h
  rw [resolve?_reference (display_ne_empty hcs) (Keyed.find?_insert_self _ _ _)]
  exact exists_literalValue?_display hcs

/-- A quotient that is rounded up, to a zero that has kept its sign and does not show it. -/
theorem resolve?_display_quotient :
    let v : Value := .number ⟨true, 0, 0, by decide, by decide⟩
    (parse "$a or ceil($b/7)").resolve? [("b", "-1")] = some v ∧ v.display = "0" ∧
      ∃ w, (parse "$x").resolve? [("x", "0")] = some w ∧ v.Same w := by
  intro v
  have hresolve : (parse "$a or ceil($b/7)").resolve? [("b", "-1")] = some v := by decide +kernel
  have hdisplay : v.display = "0" := by decide +kernel
  have hagain := resolve?_display "$a or ceil($b/7)" [("b", "-1")] [] v hresolve
  rw [hdisplay] at hagain
  exact ⟨hresolve, hdisplay, hagain⟩

end Expression

end CancellationPolicy
