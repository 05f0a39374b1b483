import CancellationPolicy.Json.Source
import Mathlib.Algebra.Order.Ring.Int

/-!
# Numerals are read as they are written

A numeral whose parts are well formed is read back from its text, whatever follows that does not
continue it (`numeral?_append`).  Its value is that of its digits, scaled by the exponent of the
last of them (`value?_eq`).
-/

namespace CancellationPolicy.Json.Numeral

/-! ### The text of a numeral -/

/-- The text of a fraction. -/
def fractionText : Option (List Char) → List Char
  | some ds => '.' :: ds
  | none => []

/-- The text of an exponent; its sign is always written. -/
def exponentText : Option (Bool × List Char) → List Char
  | some (minus, ds) => 'e' :: (if minus then '-' else '+') :: ds
  | none => []

/-- The text of a numeral behind its sign. -/
def body (n : Numeral) : List Char :=
  n.whole ++ (fractionText n.fraction ++ exponentText n.exponent)

/-- The text of a numeral. -/
def toText (n : Numeral) : List Char := if n.negative then '-' :: n.body else n.body

/-- Whether a text consists of digits. -/
def IsDigits (ds : List Char) : Prop := ∀ c ∈ ds, c.isDigit = true

/-- Whether the parts of a numeral are what a reader expects. -/
structure WellFormed (n : Numeral) : Prop where
  /-- In front of the point there are only digits. -/
  whole : IsDigits n.whole
  /-- There is a digit in front of the point. -/
  whole_ne : n.whole ≠ []
  /-- A zero in front is the only digit there. -/
  leading : n.whole.head? = some '0' → n.whole = ['0']
  /-- A fraction consists of digits, at least one. -/
  fraction : ∀ ds ∈ n.fraction, IsDigits ds ∧ ds ≠ []
  /-- An exponent consists of digits, at least one. -/
  exponent : ∀ p ∈ n.exponent, IsDigits p.2 ∧ p.2 ≠ []

/-- Whether a text does not continue a numeral in front of it. -/
def Ends (rest : List Char) : Prop :=
  ∀ c ∈ rest.head?, c.isDigit = false ∧ c ≠ '.' ∧ c ≠ 'e' ∧ c ≠ 'E'

variable {n : Numeral} {ds rest : List Char}

/-! ### Reading the text -/

/-- Digits are read up to what starts with none. -/
theorem spanDigits_append (hds : IsDigits ds) (hrest : ∀ c ∈ rest.head?, c.isDigit = false) :
    Source.spanDigits (ds ++ rest) = (ds, rest) := by
  have htake : rest.takeWhile Char.isDigit = [] ∧ rest.dropWhile Char.isDigit = rest := by
    cases rest with
    | nil => exact ⟨rfl, rfl⟩
    | cons c cs =>
      have hc := hrest c rfl
      simp [hc]
  rw [Source.spanDigits, List.takeWhile_append_of_pos hds, List.dropWhile_append_of_pos hds,
    htake.1, htake.2, List.append_nil]

/-- A fraction is read as it is written. -/
theorem fractionPart?_append {fraction : Option (List Char)}
    (h : ∀ ds ∈ fraction, IsDigits ds ∧ ds ≠ [])
    (hrest : ∀ c ∈ rest.head?, c.isDigit = false ∧ c ≠ '.') :
    Source.fractionPart? (fractionText fraction ++ rest) = some (fraction, rest) := by
  cases fraction with
  | none =>
    cases rest with
    | nil => rfl
    | cons c cs =>
      have hc := (hrest c rfl).2
      rw [fractionText, List.nil_append, Source.fractionPart?]
      rintro _ heq
      exact hc (List.cons.inj heq).1
  | some ds =>
    obtain ⟨hds, hne⟩ := h ds rfl
    rw [fractionText, List.cons_append, Source.fractionPart?,
      spanDigits_append hds fun c hc => (hrest c hc).1]
    simp [hne]

/-- An exponent is read as it is written. -/
theorem exponentPart?_append {exponent : Option (Bool × List Char)}
    (h : ∀ p ∈ exponent, IsDigits p.2 ∧ p.2 ≠ []) (hrest : Ends rest) :
    Source.exponentPart? (exponentText exponent ++ rest) = some (exponent, rest) := by
  cases exponent with
  | none =>
    cases rest with
    | nil => rfl
    | cons c cs =>
      obtain ⟨-, -, he, hE⟩ := hrest c rfl
      simp [exponentText, Source.exponentPart?, he, hE]
  | some p =>
    obtain ⟨minus, ds⟩ := p
    obtain ⟨hds, hne⟩ := h _ rfl
    have hspan : Source.spanDigits (ds ++ rest) = (ds, rest) :=
      spanDigits_append hds fun c hc => (hrest c hc).1
    cases minus <;> simp [exponentText, Source.exponentPart?, hspan, hne]

/-- A well-formed numeral is read back from its text. -/
theorem numeral?_append (h : n.WellFormed) (hrest : Ends rest) :
    Source.numeral? n.negative (n.body ++ rest) = some (n, rest) := by
  -- digits stop at what follows them: a point, the letter of an exponent, or the end
  have hexponent : ∀ c ∈ (exponentText n.exponent ++ rest).head?, c.isDigit = false ∧ c ≠ '.' := by
    intro c hc
    cases he : n.exponent with
    | none =>
      rw [he, exponentText, List.nil_append] at hc
      exact ⟨(hrest c hc).1, (hrest c hc).2.1⟩
    | some p =>
      rw [he] at hc
      obtain rfl : 'e' = c := Option.some.inj hc
      decide
  have hfraction : ∀ c ∈ (fractionText n.fraction ++ (exponentText n.exponent ++ rest)).head?,
      c.isDigit = false := by
    intro c hc
    cases hf : n.fraction with
    | none =>
      rw [hf, fractionText, List.nil_append] at hc
      exact (hexponent c hc).1
    | some ds =>
      rw [hf] at hc
      obtain rfl : '.' = c := Option.some.inj hc
      decide
  rw [body, List.append_assoc, List.append_assoc, Source.numeral?,
    spanDigits_append h.whole hfraction]
  dsimp only
  split
  · rename_i hnil
    exact absurd hnil h.whole_ne
  · -- a zero in front of further digits
    rename_i hzero
    have hlead := h.leading (by rw [hzero]; rfl)
    rw [hzero] at hlead
    simp at hlead
  · rw [fractionPart?_append h.fraction hexponent]
    dsimp only
    rw [exponentPart?_append h.exponent hrest]

/-! ### The value -/

/-- The digits of a numeral as one number. -/
def significand (n : Numeral) : Nat := Nat.ofDigitChars 10 (n.whole ++ n.fraction.getD []) 0

/-- The written exponent. -/
def writtenExponent : Option (Bool × List Char) → Int
  | some (minus, ds) =>
    if minus then -(Nat.ofDigitChars 10 ds 0 : Int) else (Nat.ofDigitChars 10 ds 0 : Int)
  | none => 0

/-- The exponent of the last digit. -/
def lastExponent (n : Numeral) : Int :=
  writtenExponent n.exponent - ((n.fraction.getD []).length : Int)

theorem le_ofDigitChars (ds : List Char) (k : Nat) : k ≤ Nat.ofDigitChars 10 ds k := by
  rw [Nat.ofDigitChars_eq_ofDigitChars_zero]
  have hpos : 0 < 10 ^ ds.length := Nat.pow_pos (by decide)
  exact Nat.le_trans (Nat.le_mul_of_pos_left k hpos) (Nat.le_add_right _ _)

/-- Digits of a number that fits 64 bits are all taken. -/
theorem takeDigits_eq {ds : List Char} {k : Nat} (h : Nat.ofDigitChars 10 ds k < wordBound) :
    takeDigits k ds = (Nat.ofDigitChars 10 ds k, []) := by
  induction ds generalizing k with
  | nil => rfl
  | cons d ds ih =>
    rw [Nat.ofDigitChars_cons] at h ⊢
    rw [takeDigits]
    exact (if_pos (Nat.lt_of_le_of_lt (le_ofDigitChars ds _) h)).trans (ih h)

theorem clampExponent_eq {e : Int} (h : e.natAbs < 2 ^ 31) : clampExponent e = e := by
  have hpow : ((Nat.pow 2 31 : Nat) : Int) = 2147483648 := rfl
  rw [clampExponent, hpow]
  omega

/-- The number of the digits that are taken, and the exponent of the last of them as far as the
point decides it. -/
def taken (n : Numeral) : Nat × Int :=
  let skipped : Int := (takeDigits 0 n.whole).2.length
  match n.fraction with
  | none => ((takeDigits 0 n.whole).1, skipped)
  | some ds =>
    let (m, rest) := takeDigits (takeDigits 0 n.whole).1 ds
    (m, skipped - (ds.length - rest.length : Nat))

/-- The value of a numeral is made of the digits for which there is room. -/
theorem value?_eq_taken (n : Numeral) : n.value? =
    match n.exponent with
    | some (minus, ds) =>
      let e := Nat.ofDigitChars 10 ds 0
      if e < exponentBound then
        (assemble? n.negative n.taken.1
          (clampExponent (if minus then n.taken.2 - e else n.taken.2 + e))).map .double
      else if n.taken.1 ≠ 0 ∧ minus = false then none
      else some (.double (Binary.zero .double n.negative))
    | none =>
      if n.fraction.isNone ∧ (takeDigits 0 n.whole).2.isEmpty then
        if n.negative = false then some (.int n.taken.1)
        else if 0 < n.taken.1 ∧ n.taken.1 ≤ Nat.pow 2 63 then some (.int (-(n.taken.1 : Int)))
        else some (.double (-(Binary.ofNat .double n.taken.1)))
      else (assemble? n.negative n.taken.1 n.taken.2).map .double := rfl

/-- All digits of a number that fits 64 bits are taken. -/
theorem taken_eq (h : n.significand < wordBound) :
    takeDigits 0 n.whole = (Nat.ofDigitChars 10 n.whole 0, []) ∧
      n.taken = (n.significand, -((n.fraction.getD []).length : Int)) := by
  -- the whole is at most the significand, so there is room for it too
  have hwhole : takeDigits 0 n.whole = (Nat.ofDigitChars 10 n.whole 0, []) := by
    refine takeDigits_eq (Nat.lt_of_le_of_lt ?_ h)
    rw [significand, Nat.ofDigitChars_append]
    exact le_ofDigitChars _ _
  refine ⟨hwhole, ?_⟩
  rw [taken, hwhole]
  cases hf : n.fraction with
  | none => simp [significand, hf]
  | some ds =>
    rw [significand, hf, Option.getD_some] at h
    have hds : takeDigits (Nat.ofDigitChars 10 n.whole 0) ds =
        (Nat.ofDigitChars 10 (n.whole ++ ds) 0, []) := by
      rw [Nat.ofDigitChars_append] at h ⊢
      exact takeDigits_eq h
    simp [hds, significand, hf]

/-- A numeral with a point or an exponent is its digits, scaled by the exponent of the last. -/
theorem value?_eq (hsignificand : n.significand < wordBound)
    (hexponent : (writtenExponent n.exponent).natAbs < 2 ^ 31)
    (hlast : n.lastExponent.natAbs < 2 ^ 31)
    (hpoint : n.fraction.isSome = true ∨ n.exponent.isSome = true) :
    n.value? = (assemble? n.negative n.significand n.lastExponent).map .double := by
  have hbound : exponentBound = 2 ^ 31 := rfl
  rw [value?_eq_taken, (taken_eq hsignificand).2, lastExponent]
  rw [lastExponent] at hlast
  cases he : n.exponent with
  | none =>
    have hfraction := hpoint.resolve_right (by simp [he])
    rw [← Option.not_isNone, Bool.not_eq_true'] at hfraction
    simp [hfraction, writtenExponent]
  | some p =>
    obtain ⟨minus, ds⟩ := p
    rw [he] at hexponent hlast
    have hclamp := clampExponent_eq hlast
    cases minus <;>
      simp only [writtenExponent, Bool.false_eq_true, if_true, if_false] at hexponent hclamp ⊢
    · rw [if_pos (by omega), Int.add_comm, ← Int.sub_eq_add_neg, hclamp]
    · rw [if_pos (by omega), Int.sub_eq_add_neg, Int.add_comm, ← Int.sub_eq_add_neg, hclamp]

/-- A natural number of 64 bits is its digits. -/
theorem value?_eq_int (hnegative : n.negative = false) (hfraction : n.fraction = none)
    (hexponent : n.exponent = none) (hsignificand : n.significand < wordBound) :
    n.value? = some (.int n.significand) := by
  obtain ⟨hwhole, htaken⟩ := taken_eq hsignificand
  simp [value?_eq_taken, htaken, hwhole, hnegative, hfraction, hexponent]

end CancellationPolicy.Json.Numeral
