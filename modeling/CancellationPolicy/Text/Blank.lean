import CancellationPolicy.Unicode.CharSet

/-! # Blanks and words

Blanks and words of a text.

A blank is a character of the database's white-space class: the ASCII blanks,
the line and paragraph separators and the typographic spaces, including those
that do not break a line. `words` cuts a text at runs of blanks, `trim` drops
blanks at both ends, and `squeeze` joins the words by single spaces.

Main statements: no word is empty or holds a blank (`ne_nil_of_mem_words`,
`not_isBlank_of_mem_words`), and cutting words that are joined by spaces gives
them back (`words_intercalate`).
-/

namespace CancellationPolicy

/-- The code points of blanks. -/
def blanks : CharSet := ⟨[
  0x9, 0xE, 0x20, 0x21, 0x85, 0x86, 0xA0, 0xA1, 0x1680, 0x1681, 0x2000, 0x200B, 0x2028, 0x202A,
  0x202F, 0x2030, 0x205F, 0x2060, 0x3000, 0x3001
]⟩

/-- Whether a character is a blank. -/
def isBlank (c : Char) : Bool := blanks.holds c

namespace Text

/-! ### Cutting -/

/-- The maximal runs of characters that are not blank. -/
def words : List Char → List (List Char)
  | [] => []
  | c :: cs =>
    if isBlank c then words cs
    else if cs.head?.all isBlank then [c] :: words cs
    else match words cs with
      | [] => [[c]]
      | w :: ws => (c :: w) :: ws

/-- The text behind its leading blanks. -/
def trimStart (cs : List Char) : List Char := cs.dropWhile isBlank

/-- The text before its trailing blanks. -/
def trimEnd (cs : List Char) : List Char := (cs.reverse.dropWhile isBlank).reverse

/-- The text between its leading and its trailing blanks. -/
def trim (cs : List Char) : List Char := trimEnd (trimStart cs)

/-- The words of a text, joined by single spaces. -/
def squeeze (cs : List Char) : List Char := [' '].intercalate (words cs)

/-! ### Words -/

theorem words_cons_of_isBlank {c : Char} (cs : List Char) (h : isBlank c = true) :
    words (c :: cs) = words cs := by
  simp [words, h]

theorem ne_nil_of_mem_words {w : List Char} {cs : List Char} (h : w ∈ words cs) : w ≠ [] := by
  induction cs generalizing w with
  | nil => simp [words] at h
  | cons c cs ih =>
    unfold words at h
    split at h
    · exact ih h
    · split at h
      · rcases List.mem_cons.1 h with rfl | h
        · simp
        · exact ih h
      · split at h
        · simp_all
        · rename_i hw
          rcases List.mem_cons.1 h with rfl | h
          · simp
          · exact ih (hw ▸ List.mem_cons_of_mem _ h)

theorem not_isBlank_of_mem_words {w : List Char} {cs : List Char} (h : w ∈ words cs)
    {c : Char} (hc : c ∈ w) : isBlank c = false := by
  induction cs generalizing w c with
  | nil => simp [words] at h
  | cons d cs ih =>
    unfold words at h
    split at h
    · exact ih h hc
    · rename_i hd
      split at h
      · rcases List.mem_cons.1 h with rfl | h
        · simp_all
        · exact ih h hc
      · split at h
        · simp_all
        · rename_i v vs hw
          rcases List.mem_cons.1 h with rfl | h
          · rcases List.mem_cons.1 hc with rfl | hc
            · simpa using hd
            · exact ih (hw ▸ List.mem_cons_self) hc
          · exact ih (hw ▸ List.mem_cons_of_mem _ h) hc

theorem mem_of_mem_words {w : List Char} {cs : List Char} (h : w ∈ words cs) {c : Char}
    (hc : c ∈ w) : c ∈ cs := by
  induction cs generalizing w c with
  | nil => simp [words] at h
  | cons d cs ih =>
    unfold words at h
    split at h
    · exact List.mem_cons_of_mem _ (ih h hc)
    · split at h
      · rcases List.mem_cons.1 h with rfl | h
        · exact List.mem_cons.2 (.inl (List.mem_singleton.1 hc))
        · exact List.mem_cons_of_mem _ (ih h hc)
      · split at h
        · obtain rfl := List.mem_singleton.1 h
          exact List.mem_cons.2 (.inl (List.mem_singleton.1 hc))
        · rename_i v vs hw
          rcases List.mem_cons.1 h with rfl | h
          · rcases List.mem_cons.1 hc with rfl | hc
            · exact List.mem_cons_self
            · exact List.mem_cons_of_mem _ (ih (hw ▸ List.mem_cons_self) hc)
          · exact List.mem_cons_of_mem _ (ih (hw ▸ List.mem_cons_of_mem _ h) hc)

theorem words_eq_nil_iff {cs : List Char} : words cs = [] ↔ ∀ c ∈ cs, isBlank c = true := by
  induction cs with
  | nil => simp [words]
  | cons c cs ih =>
    unfold words
    split
    · simp_all
    · rename_i h
      split
      · simp_all
      · split <;> simp_all

/-- A word in front of a blank is the first word. -/
theorem words_append_blank {w : List Char} {b : Char} (cs : List Char) (hw : w ≠ [])
    (hblank : ∀ c ∈ w, isBlank c = false) (hb : isBlank b = true) :
    words (w ++ b :: cs) = w :: words cs := by
  induction w with
  | nil => exact absurd rfl hw
  | cons c w ih =>
    have hc : isBlank c = false := hblank c (by simp)
    cases w with
    | nil => simp [words, hc, hb]
    | cons d w =>
      have hd : isBlank d = false := hblank d (by simp)
      have hrest := ih (by simp) (fun e he => hblank e (List.mem_cons_of_mem _ he))
      simp only [List.cons_append] at hrest ⊢
      rw [words]
      simp [hc, hd, hrest]

/-- A text without blanks is one word. -/
theorem words_of_no_blank {w : List Char} (hw : w ≠ []) (hblank : ∀ c ∈ w, isBlank c = false) :
    words w = [w] := by
  induction w with
  | nil => exact absurd rfl hw
  | cons c w ih =>
    have hc : isBlank c = false := hblank c (by simp)
    cases w with
    | nil => simp [words, hc]
    | cons d w =>
      have hd : isBlank d = false := hblank d (by simp)
      have hrest := ih (by simp) (fun e he => hblank e (List.mem_cons_of_mem _ he))
      rw [words]
      simp [hc, hd, hrest]

/-- Joining words by spaces and cutting again gives the words. -/
theorem words_intercalate {ws : List (List Char)}
    (hws : ∀ w ∈ ws, w ≠ [] ∧ ∀ c ∈ w, isBlank c = false) :
    words ([' '].intercalate ws) = ws := by
  induction ws with
  | nil => rfl
  | cons w ws ih =>
    have hw := hws w (by simp)
    have hrest := ih fun v hv => hws v (List.mem_cons_of_mem _ hv)
    cases ws with
    | nil => simpa [List.intercalate] using words_of_no_blank hw.1 hw.2
    | cons v vs =>
      have hsplit : [' '].intercalate (w :: v :: vs) = w ++ ' ' :: [' '].intercalate (v :: vs) := by
        simp [List.intercalate]
      rw [hsplit, words_append_blank _ hw.1 hw.2 (by decide), hrest]

end Text

end CancellationPolicy
