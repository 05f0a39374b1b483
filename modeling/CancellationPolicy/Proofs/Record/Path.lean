import CancellationPolicy.Record.Path

/-!
# Paths above paths

A path is above another if its segments are a proper prefix of the other's (`Above`).  The test
`isAbove` looks at bytes instead: the lower path starts with the upper one and goes on with a
dot.  The two agree (`isAbove_iff`).

The proof goes through the characters (`isAbove_iff_toList`).  No character but the dot has the
byte of a dot in its encoding where a character starts, and a text whose bytes start with those
of another starts with its characters, so that the test on bytes cannot be misled by a path such
as `fee_type` beside `fee`.
-/

namespace CancellationPolicy

/-! ### Cutting at a separator -/

namespace Text

/-- A text whose parts are followed by further parts is followed by a separator. -/
theorem eq_append_of_split_eq {s : Char} {xs ys : List Char} {w : List Char}
    {ws : List (List Char)} (h : split (· == s) ys = split (· == s) xs ++ w :: ws) :
    ∃ rest, ys = xs ++ s :: rest := by
  refine ⟨[s].intercalate (w :: ws), ?_⟩
  -- joining is undone by splitting, and it can be cut between two parts
  have key : ∀ vs : List (List Char), vs ≠ [] →
      [s].intercalate (vs ++ w :: ws) = [s].intercalate vs ++ s :: [s].intercalate (w :: ws) := by
    intro vs hvs
    induction vs with
    | nil => exact absurd rfl hvs
    | cons v vs ih =>
      cases vs with
      | nil => simp [List.intercalate_cons_cons]
      | cons u us =>
        have hrec := ih (by simp)
        rw [List.cons_append] at hrec
        rw [List.cons_append, List.cons_append, List.intercalate_cons_cons, hrec,
          List.intercalate_cons_cons]
        simp
  calc ys = [s].intercalate (split (· == s) ys) := (intercalate_split s ys).symm
    _ = [s].intercalate (split (· == s) xs ++ w :: ws) := by rw [h]
    _ = xs ++ s :: [s].intercalate (w :: ws) := by
        rw [key _ (split_ne_nil _ xs), intercalate_split]

end Text

namespace Path

/-! ### Bytes and characters -/

theorem bytes_eq_flatMap (path : String) :
    bytes path = path.toList.flatMap String.utf8EncodeChar := by
  have h : path.toList.utf8Encode = path.toByteArray := String.utf8Encode_toList
  rw [bytes, ← h, List.utf8Encode, List.toList_data_toByteArray]

/-- A text whose bytes start with those of another starts with its characters. -/
theorem prefix_of_flatMap_append {us ls : List Char} {rest : List UInt8}
    (h : us.flatMap String.utf8EncodeChar ++ rest = ls.flatMap String.utf8EncodeChar) :
    us <+: ls := by
  apply List.isPrefix_of_utf8Encode_append_eq_utf8Encode rest.toByteArray
  rw [List.utf8Encode, List.utf8Encode, ← h, List.toByteArray_append]

/-- A path lies above another exactly if the other goes on behind it with a dot. -/
theorem isAbove_iff_toList {upper lower : String} :
    isAbove upper lower = true ↔ ∃ rest, lower.toList = upper.toList ++ '.' :: rest := by
  have hdot : String.utf8EncodeChar '.' = [dotByte] := by decide
  unfold isAbove
  rw [Bool.and_eq_true, List.isPrefixOf_iff_prefix, beq_iff_eq]
  constructor
  · rintro ⟨⟨rest, hrest⟩, hnext⟩
    rw [← hrest, List.getElem?_append_right (Nat.le_refl _), Nat.sub_self] at hnext
    obtain ⟨t, rfl⟩ : ∃ t, rest = dotByte :: t := by
      cases rest with
      | nil => simp at hnext
      | cons b t => exact ⟨t, by simpa using hnext⟩
    -- the bytes are compared, and they are those of the characters
    have hbytes : (upper.toList ++ ['.']).flatMap String.utf8EncodeChar ++ t
        = lower.toList.flatMap String.utf8EncodeChar := by
      rw [List.flatMap_append, List.flatMap_singleton, hdot, ← bytes_eq_flatMap,
        ← bytes_eq_flatMap, ← hrest, List.append_assoc, List.singleton_append]
    obtain ⟨cs, hcs⟩ := prefix_of_flatMap_append hbytes
    exact ⟨cs, by rw [← hcs, List.append_assoc, List.singleton_append]⟩
  · rintro ⟨rest, hrest⟩
    have hbytes : bytes lower = bytes upper ++ dotByte :: rest.flatMap String.utf8EncodeChar := by
      rw [bytes_eq_flatMap, bytes_eq_flatMap, hrest, List.flatMap_append, List.flatMap_cons, hdot,
        List.singleton_append]
    rw [hbytes]
    exact ⟨List.prefix_append _ _, by simp⟩

/-! ### Segments -/

/-- The characters of the segments are the parts between dots. -/
theorem map_toList_segments (path : String) :
    (segments path).map String.toList = Text.split (· == '.') path.toList := by
  simp [segments, Function.comp_def]

/-- A path is determined by its segments. -/
theorem segments_injective {p q : String} (h : segments p = segments q) : p = q := by
  have hsplit := congrArg (List.map String.toList) h
  rw [map_toList_segments, map_toList_segments] at hsplit
  apply String.toList_injective
  rw [← Text.intercalate_split '.' p.toList, hsplit, Text.intercalate_split]

/-- Joining the segments by dots gives the path back. -/
theorem intercalate_segments (path : String) : ".".intercalate (segments path) = path := by
  apply String.toList_injective
  rw [String.toList_intercalate, map_toList_segments]
  exact Text.intercalate_split '.' path.toList

/-- A name without dots is its only segment. -/
theorem segments_of_not_mem {name : String} (h : '.' ∉ name.toList) : segments name = [name] := by
  have hsep : ∀ c ∈ name.toList, (c == '.') = false := by
    rintro c hc
    rw [beq_eq_false_iff_ne]
    rintro rfl
    exact h hc
  rw [segments, Text.split_of_no_sep hsep, List.map_singleton, String.ofList_toList]

/-- A name with a dot has two segments at least. -/
theorem exists_segments_of_mem {name : String} (h : '.' ∈ name.toList) :
    ∃ a b rest, segments name = a :: b :: rest := by
  obtain ⟨xs, ys, hname⟩ := List.append_of_mem h
  obtain ⟨v, vs, hxs⟩ := List.exists_cons_of_ne_nil (Text.split_ne_nil (· == '.') xs)
  obtain ⟨w, ws, hys⟩ := List.exists_cons_of_ne_nil (Text.split_ne_nil (· == '.') ys)
  rw [segments, hname, Text.split_append_cons xs ys (by decide), hxs, hys]
  cases vs with
  | nil => exact ⟨_, _, _, rfl⟩
  | cons v' vs => exact ⟨_, _, _, rfl⟩

/-- Names that are joined by dots have the segments of all of them. -/
theorem segments_intercalate {names : List String} (h : names ≠ []) :
    segments (".".intercalate names) = names.flatMap segments := by
  induction names with
  | nil => exact absurd rfl h
  | cons name names ih =>
    cases names with
    | nil => rw [String.intercalate_singleton, List.flatMap_singleton]
    | cons next names =>
      have hdot : ".".toList = ['.'] := rfl
      rw [List.flatMap_cons, ← ih (List.cons_ne_nil _ _), String.intercalate_cons_cons, segments,
        String.toList_append, String.toList_append, hdot, List.append_assoc, List.singleton_append,
        Text.split_append_cons _ _ (by decide), List.map_append]
      rfl

/-- A valid path is not empty and has no empty segment. -/
theorem isValid_iff {path : String} :
    isValid path = true ↔ path ≠ "" ∧ ∀ s ∈ segments path, s ≠ "" := by
  have hall : isValid path = true ↔ ∀ s ∈ segments path, s ≠ "" := by
    simp [isValid, List.all_eq_true]
  rw [hall]
  constructor
  · intro h
    refine ⟨?_, h⟩
    rintro rfl
    exact h "" (by decide) rfl
  · exact And.right

/-- Whether the last segment of a path is the name of a count. -/
def EndsInCount (path : String) : Prop := ∃ name ∈ countNames, (segments path).getLast? = some name

/-- A path is one of a count exactly if its last segment names one. -/
theorem isCount_iff {path : String} : isCount path = true ↔ EndsInCount path := by
  unfold isCount EndsInCount
  cases (segments path).getLast? <;> simp

/-! ### Above and below -/

/-- Whether the segments of a path are a proper prefix of those of another. -/
def Above (upper lower : String) : Prop :=
  segments upper <+: segments lower ∧ segments upper ≠ segments lower

instance (upper lower : String) : Decidable (Above upper lower) :=
  inferInstanceAs (Decidable (_ ∧ _))

/-- The test on bytes decides whether a path is above another. -/
theorem isAbove_iff {upper lower : String} : isAbove upper lower = true ↔ Above upper lower := by
  rw [isAbove_iff_toList]
  constructor
  · rintro ⟨rest, hrest⟩
    have hsplit : segments lower
        = segments upper ++ (Text.split (· == '.') rest).map String.ofList := by
      rw [segments, segments, hrest, Text.split_append_cons _ _ (by decide), List.map_append]
    refine ⟨⟨_, hsplit.symm⟩, fun heq => ?_⟩
    rw [heq] at hsplit
    have hnil := List.append_right_eq_self.1 hsplit.symm
    exact Text.split_ne_nil _ rest (List.map_eq_nil_iff.1 hnil)
  · rintro ⟨⟨more, hmore⟩, hne⟩
    -- a path that goes on has a point at which it does
    cases more with
    | nil => exact absurd (by simpa using hmore) hne
    | cons w ws =>
      have hsplit := congrArg (List.map String.toList) hmore
      rw [List.map_append, map_toList_segments, map_toList_segments, List.map_cons] at hsplit
      exact Text.eq_append_of_split_eq hsplit.symm

theorem not_above_self (path : String) : ¬Above path path := fun h => h.2 rfl

/-- Whether neither of two paths is above the other. -/
def Apart (p q : String) : Prop := ¬Above p q ∧ ¬Above q p

instance (p q : String) : Decidable (Apart p q) := inferInstanceAs (Decidable (_ ∧ _))

example : Above "fee" "fee.amount" ∧ Apart "fee" "fee_type" := by decide

end Path

end CancellationPolicy
