import CancellationPolicy.Text.Blank
import CancellationPolicy.Unicode.Uppercase

/-! # Canonical text

The canonical form in which rules read a policy text: its words in upper
case, joined by single spaces.

Line ends of all three kinds are made line feeds first. Nothing hangs on it, as
carriage returns and line feeds are both blanks (`words_unifyLineEnds`).

Main statement: `words_canonical`, which says that the words of the canonical
form are the words of the text in upper case, under the facts about the case
tables that it names.
-/

namespace CancellationPolicy

namespace Text

/-- The text with line feeds for line ends, which are line feeds, carriage returns, or a carriage
return and a line feed together. -/
def unifyLineEnds : List Char → List Char
  | '\r' :: '\n' :: cs => '\n' :: unifyLineEnds cs
  | '\r' :: cs => '\n' :: unifyLineEnds cs
  | c :: cs => c :: unifyLineEnds cs
  | [] => []

/-- Every character in upper case. -/
def upper (cs : List Char) : List Char := cs.flatMap Unicode.uppercase

end Text

/-- The canonical form of a text. -/
def canonical (text : String) : String :=
  String.ofList (Text.upper (Text.squeeze (Text.unifyLineEnds text.toList)))

namespace Text

theorem upper_append (cs ds : List Char) : upper (cs ++ ds) = upper cs ++ upper ds := by
  simp [upper]

theorem upper_space : upper [' '] = [' '] := by decide +kernel

/-- Upper case passes through joining by spaces. -/
theorem upper_intercalate (ws : List (List Char)) :
    upper ([' '].intercalate ws) = [' '].intercalate (ws.map upper) := by
  induction ws with
  | nil => rfl
  | cons w ws ih =>
    cases ws with
    | nil => simp [List.intercalate]
    | cons v vs =>
      have h1 : [' '].intercalate (w :: v :: vs) = w ++ ([' '] ++ [' '].intercalate (v :: vs)) := by
        simp [List.intercalate]
      have h2 : [' '].intercalate ((w :: v :: vs).map upper) =
          upper w ++ ([' '] ++ [' '].intercalate ((v :: vs).map upper)) := by
        simp [List.intercalate]
      rw [h1, h2, upper_append, upper_append, upper_space, ih]

theorem all_head?_unifyLineEnds (cs : List Char) :
    (unifyLineEnds cs).head?.all isBlank = cs.head?.all isBlank := by
  fun_cases unifyLineEnds cs <;> rfl

/-- Line ends of another kind do not change the words. -/
theorem words_unifyLineEnds (cs : List Char) : words (unifyLineEnds cs) = words cs := by
  have hreturn : isBlank '\r' = true := by decide
  have hfeed : isBlank '\n' = true := by decide
  fun_induction unifyLineEnds cs with
  | case1 cs ih =>
    rw [words_cons_of_isBlank _ hfeed, words_cons_of_isBlank _ hreturn,
      words_cons_of_isBlank _ hfeed, ih]
  | case2 cs _ ih => rw [words_cons_of_isBlank _ hfeed, words_cons_of_isBlank _ hreturn, ih]
  | case3 c cs _ _ ih => rw [words, words, ih, all_head?_unifyLineEnds]
  | case4 => rfl

/-- The canonical form is the words in upper case, joined by single spaces. -/
theorem toList_canonical (text : String) :
    (canonical text).toList = [' '].intercalate ((words text.toList).map upper) := by
  simp [canonical, squeeze, words_unifyLineEnds, upper_intercalate]

/-- **Words of the canonical form.** Where the upper case of a character that
is not blank is neither empty nor holds a blank, the canonical form has the
words of the text in upper case. -/
theorem words_canonical (text : String)
    (hne : ∀ c, isBlank c = false → Unicode.uppercase c ≠ [])
    (hblank : ∀ c, isBlank c = false → ∀ d ∈ Unicode.uppercase c, isBlank d = false) :
    words (canonical text).toList = (words text.toList).map upper := by
  rw [toList_canonical]
  refine words_intercalate fun w hw => ?_
  obtain ⟨v, hv, rfl⟩ := List.mem_map.1 hw
  have hvb : ∀ c ∈ v, isBlank c = false := fun c hc => not_isBlank_of_mem_words hv hc
  refine ⟨?_, ?_⟩
  · cases v with
    | nil => exact absurd rfl (ne_nil_of_mem_words hv)
    | cons c v => simp [upper, hne c (hvb c (by simp))]
  · intro d hd
    obtain ⟨c, hc, hdc⟩ := List.mem_flatMap.1 hd
    exact hblank c (hvb c hc) d hdc

end Text

end CancellationPolicy
