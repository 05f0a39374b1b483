import CancellationPolicy.Json.Source

/-!
# Quoted texts are read as they are written

Each character of a text is escaped to one piece (`pieces?_escape`), which stands for the character
(`chars?_map_pieceOf`).  So the content of a quoted text is the text (`textBody_quote`).
-/

namespace CancellationPolicy.Json

open Source (Piece)

/-- The piece that a character is written as: control characters without an escape of one letter are
written by their numbers. -/
def pieceOf (c : Char) : Piece :=
  if c = '\n' ∨ c = '\r' ∨ c = '\t' ∨ c = '\x08' ∨ c = '\x0c' then .char c
  else if c.toNat < 32 then .word c.toNat
  else .char c

/-! ### Pieces -/

theorem hexWord?_hexDigit :
    ∀ n < 32, Source.hexWord? '0' '0' (hexDigit (n / 16)) (hexDigit (n % 16)) = some n := by
  decide

/-- An escaped character is one piece. -/
theorem pieces?_escape (c : Char) (cs : List Char) : Source.pieces? (escape c ++ cs) =
    (Source.pieces? cs).map fun (ps, rest) => (pieceOf c :: ps, rest) := by
  -- a character that has a letter for its escape
  by_cases hletter : c = '"' ∨ c = '\\' ∨ c = '\n' ∨ c = '\r' ∨ c = '\t' ∨ c = '\x08' ∨ c = '\x0c'
  · rcases hletter with rfl | rfl | rfl | rfl | rfl | rfl | rfl <;> rfl
  simp only [not_or] at hletter
  obtain ⟨hquote, hbackslash, hn, hr, ht, hb, hf⟩ := hletter
  have hpiece : pieceOf c = if c.toNat < 32 then .word c.toNat else .char c :=
    if_neg (by simp [hn, hr, ht, hb, hf])
  rw [escape, if_neg hquote, if_neg hbackslash, if_neg hn, if_neg hr, if_neg ht, if_neg hb,
    if_neg hf, hpiece]
  split
  · -- a control character without a letter of its own
    rename_i hcontrol
    have hword := hexWord?_hexDigit c.toNat hcontrol
    simp only [List.cons_append, List.nil_append, Source.pieces?, hword]
  · -- any other character, which neither ends the text nor starts an escape
    rename_i hplain
    rw [List.singleton_append, Source.pieces?]
    · rw [if_neg hplain]
    · exact fun heq => hquote heq
    · intro _ _ _ _ _ heq
      exact absurd heq hbackslash
    · intro _ _ heq
      exact absurd heq hbackslash

/-- An escaped text is read up to the quote behind it. -/
theorem pieces?_flatMap_escape (cs rest : List Char) :
    Source.pieces? (cs.flatMap escape ++ '"' :: rest) = some (cs.map pieceOf, rest) := by
  induction cs with
  | nil => rw [List.flatMap_nil, List.nil_append, Source.pieces?, List.map_nil]
  | cons c cs ih =>
    rw [List.flatMap_cons, List.append_assoc, pieces?_escape, ih, Option.map_some, List.map_cons]

/-! ### Characters -/

/-- A word of a control character stands for it by itself. -/
theorem chars?_word {n : Nat} (h : n < 32) (ps : List Piece) :
    Source.chars? (.word n :: ps) = (Source.chars? ps).map (Char.ofNat n :: ·) := by
  have hhigh : Source.isHigh n = false := by
    rw [Source.isHigh, Bool.and_eq_false_iff]
    exact .inl (decide_eq_false (by omega))
  have hlow : Source.isLow n = false := by
    rw [Source.isLow, Bool.and_eq_false_iff]
    exact .inl (decide_eq_false (by omega))
  match ps with
  | [] => simp [Source.chars?, hhigh, hlow]
  | .char _ :: _ => simp [Source.chars?, hhigh, hlow]
  | .word _ :: _ => simp [Source.chars?, hhigh, hlow]

/-- The pieces of a text stand for its characters. -/
theorem chars?_map_pieceOf (cs : List Char) : Source.chars? (cs.map pieceOf) = some cs := by
  induction cs with
  | nil => rfl
  | cons c cs ih =>
    have hchar : Source.chars? (.char c :: cs.map pieceOf) = some (c :: cs) := by
      rw [Source.chars?, ih, Option.map_some]
    rw [List.map_cons, pieceOf]
    split
    -- a character with a letter stands for itself, a control character for its code
    · exact hchar
    · split
      · rename_i hcontrol
        rw [chars?_word hcontrol, ih, Option.map_some, Char.ofNat_toNat]
      · exact hchar

/-! ### Texts -/

theorem toList_quote (s : String) :
    (quote s).toList = '"' :: (s.toList.flatMap escape ++ ['"']) := by
  rw [quote, String.toList_ofList]
  rfl

/-- The content of a quoted text is the text. -/
theorem textBody_quote (s : String) (rest : List Char) :
    Source.textBody (s.toList.flatMap escape ++ '"' :: rest) = some (some s.toList, rest) := by
  rw [Source.textBody, pieces?_flatMap_escape, Option.map_some]
  dsimp only
  rw [chars?_map_pieceOf]

end CancellationPolicy.Json
