import CancellationPolicy.Proofs.Decimal.Reading
import CancellationPolicy.Proofs.Pattern.Captures

/-!
# Patterns of numerals

`Pattern.isNumeral` recognizes patterns of a few digits and an optional fraction.  Patterns take the
decimal digits of all scripts for digits, whereas amounts are written with ASCII digits alone, so a
text that such a pattern describes is an amount or holds a digit of another script
(`isSome_parse?_or_exists_foreign`).
-/

namespace CancellationPolicy

/-- Whether a character is a decimal digit, but none that amounts are written with. -/
def Unicode.isForeignDigit (c : Char) : Bool := digits.holds c && !Amount.isDigit c

theorem CharSet.eq_of_holds_single {c d : Char} (h : (single d.toNat).holds c = true) : c = d := by
  have hrange : d.toNat ≤ c.toNat ∧ c.toNat < d.toNat + 1 := by
    simpa [holds, contains, single, range, inside] using h
  exact Char.toNat_inj.1 (by omega)

namespace Pattern

variable {p : Pattern} {w : List Char} {k : Kept}

/-- Whether the pattern is that of some digits, not more than an amount surely has room for. -/
def isDigits : Pattern → Bool
  | repeated least (some most) _ (chars set) =>
    least != 0 && max least most ≤ Decimal.maxScale && set == Unicode.digits
  | _ => false

/-- Whether the pattern is that of an optional point with digits behind it. -/
def isFraction : Pattern → Bool
  | repeated 0 (some 1) _ (cat (chars point) (repeated least none _ (chars set))) =>
    point == CharSet.single '.'.toNat && least != 0 && set == Unicode.digits
  | _ => false

/-- Whether the pattern is that of digits and an optional fraction. -/
def isNumeral : Pattern → Bool
  | cat p q => p.isDigits && q.isFraction
  | p => p.isDigits

/-- Rounds of one set of characters are as many characters of it. -/
theorem iterated_chars {set : CharSet} {n : Nat} (h : Iterated (Describes (chars set)) n w k) :
    w.length = n ∧ ∀ c ∈ w, set.holds c = true := by
  induction n generalizing w k with
  | zero =>
    obtain ⟨rfl, -⟩ := h
    exact ⟨rfl, fun _ hc => absurd hc List.not_mem_nil⟩
  | succ n ih =>
    obtain ⟨v, j, v', j', hbefore, ⟨c, hc, rfl, -⟩, rfl, -⟩ := h
    obtain ⟨hlength, hall⟩ := ih hbefore
    refine ⟨by rw [List.length_append, hlength, List.length_singleton], fun d hd => ?_⟩
    rcases List.mem_append.1 hd with hd | hd
    · exact hall d hd
    · rwa [List.mem_singleton.1 hd]

theorem describes_of_isDigits (hp : p.isDigits = true) (h : p.Describes w k) :
    w ≠ [] ∧ w.length ≤ Decimal.maxScale ∧ ∀ c ∈ w, Unicode.digits.holds c = true := by
  unfold isDigits at hp
  split at hp
  · rename_i least most greedy set
    obtain ⟨n, hleast, hmost, hiterated⟩ := h
    simp only [Bool.and_eq_true, bne_iff_ne, decide_eq_true_eq, beq_iff_eq] at hp
    obtain ⟨⟨hne, hmax⟩, rfl⟩ := hp
    obtain ⟨hlength, hall⟩ := iterated_chars hiterated
    have hn := hmost most rfl
    refine ⟨fun hnil => ?_, by omega, hall⟩
    rw [hnil, List.length_nil] at hlength
    omega
  · cases hp

theorem describes_of_isFraction (hp : p.isFraction = true) (h : p.Describes w k) :
    w = [] ∨ ∃ fs, fs ≠ [] ∧ w = '.' :: fs ∧ ∀ c ∈ fs, Unicode.digits.holds c = true := by
  unfold isFraction at hp
  split at hp
  · rename_i greedy point least greedy' set
    simp only [Bool.and_eq_true, bne_iff_ne, beq_iff_eq] at hp
    obtain ⟨⟨rfl, hne⟩, rfl⟩ := hp
    obtain ⟨n, -, hmost, hiterated⟩ := h
    have hn : n ≤ 1 := hmost 1 rfl
    match n, hn with
    | 0, _ => exact .inl hiterated.1
    -- one round is the point and the digits behind it
    | 1, _ =>
      obtain ⟨-, -, w, j, ⟨rfl, -⟩, hround, rfl, -⟩ := hiterated
      obtain ⟨-, -, fs, i, ⟨c, hc, rfl, -⟩, ⟨n, hleast, -, hfs⟩, rfl, -⟩ := hround
      obtain ⟨hlength, hall⟩ := iterated_chars hfs
      obtain rfl := CharSet.eq_of_holds_single hc
      refine .inr ⟨fs, fun hnil => ?_, rfl, hall⟩
      rw [hnil, List.length_nil] at hlength
      omega
  · cases hp

/-- A text that a pattern of numerals describes has digits in front of a point and behind it, of any
script. -/
theorem exists_plain_of_isNumeral (hp : p.isNumeral = true) (h : p.Describes w k) :
    ∃ whole fraction, w = Amount.plain whole fraction ∧ whole ≠ [] ∧
      whole.length ≤ Decimal.maxScale ∧
      (∀ c ∈ whole, Unicode.digits.holds c = true) ∧
      ∀ c ∈ fraction, Unicode.digits.holds c = true := by
  unfold isNumeral at hp
  split at hp
  · rename_i p q
    obtain ⟨hdigits, hfraction⟩ := Bool.and_eq_true_iff.1 hp
    obtain ⟨v, j, v', j', hv, hv', rfl, -⟩ := h
    obtain ⟨hne, hlength, hall⟩ := describes_of_isDigits hdigits hv
    rcases describes_of_isFraction hfraction hv' with rfl | ⟨fs, hfs, rfl, hfsall⟩
    · exact ⟨v, [], List.append_nil v, hne, hlength, hall, fun _ hc => absurd hc List.not_mem_nil⟩
    · refine ⟨v, fs, ?_, hne, hlength, hall, hfsall⟩
      rw [Amount.plain, if_neg (by simpa using hfs)]
  · obtain ⟨hne, hlength, hall⟩ := describes_of_isDigits hp h
    exact ⟨w, [], rfl, hne, hlength, hall, fun _ hc => absurd hc List.not_mem_nil⟩

theorem isSome_parse?_or_exists_foreign (hp : p.isNumeral = true) (h : p.Describes w k) :
    (Amount.parse? (String.ofList w)).isSome ∨ ∃ c ∈ w, Unicode.isForeignDigit c = true := by
  obtain ⟨whole, fraction, rfl, hne, hlength, hwhole, hfraction⟩ := exists_plain_of_isNumeral hp h
  by_cases hforeign : ∃ c ∈ Amount.plain whole fraction, Unicode.isForeignDigit c = true
  · exact .inr hforeign
  · -- all digits are ASCII digits then
    have hascii {c : Char} (hc : c ∈ Amount.plain whole fraction)
        (hdigit : Unicode.digits.holds c = true) : Amount.isDigit c = true := by
      cases hd : Amount.isDigit c with
      | true => rfl
      | false => exact absurd ⟨c, hc, by simp [Unicode.isForeignDigit, hdigit, hd]⟩ hforeign
    refine .inl (Amount.isSome_parse? (fun d hd => ?_) hne hlength fun d hd => ?_)
    · exact hascii (Amount.mem_plain.2 (.inl hd)) (hwhole d hd)
    · exact hascii (Amount.mem_plain.2 (.inr (.inl hd))) (hfraction d hd)

end Pattern

end CancellationPolicy
