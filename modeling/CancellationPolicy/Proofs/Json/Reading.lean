import CancellationPolicy.Proofs.Json.Layout
import CancellationPolicy.Proofs.Json.Quoting

/-!
# Documents are read as they are written

A value stands for a source (`toSource`): what a reader makes of its text.  If the numbers of a
value are finite, its text over several lines is read as this source (`read?_pretty`).
-/

namespace CancellationPolicy.Json

open Numeral (Ends)

/-! ### Numbers -/

/-- Whether a number is finite. -/
def Number.IsFinite : Number → Prop
  | .int _ => True
  | .double x => x.isFinite = true
  | .single x => x.isFinite = true

/-- The numeral of a number. -/
def Number.numeral : Number → Numeral
  | .int n => ⟨decide (n < 0), digitsOf n.natAbs, none, none⟩
  | .double x => x.numeral .document
  | .single x => x.numeral .shortDocument

theorem toList_toString_nat (n : Nat) : (toString n).toList = digitsOf n := by
  rw [Nat.toString_eq_ofList_toDigits, String.toList_ofList]
  rfl

/-- The text of a finite number is that of its numeral. -/
theorem Number.toList_toText {n : Number} (h : n.IsFinite) :
    n.toText.toList = n.numeral.toText := by
  cases n with
  | int n =>
    cases n with
    | ofNat n =>
      rw [toText, show toString (Int.ofNat n) = toString n from rfl, toList_toString_nat]
      simp [numeral, Numeral.toText, Numeral.body, Numeral.fractionText, Numeral.exponentText]
    | negSucc n =>
      rw [toText, show toString (Int.negSucc n) = "-" ++ toString (n + 1) from rfl,
        String.toList_append, toList_toString_nat]
      simp [numeral, Numeral.toText, Numeral.body, Numeral.fractionText, Numeral.exponentText]
  | double x => exact Binary.toList_write rfl rfl h
  | single x => exact Binary.toList_write rfl rfl h

/-- A finite number has a numeral. -/
theorem Number.wellFormed_numeral {n : Number} (h : n.IsFinite) : n.numeral.WellFormed := by
  cases n with
  | int n =>
    refine ⟨isDigits_digitsOf _, digitsOf_ne_nil _, fun hzero => ?_, by simp [numeral],
      by simp [numeral]⟩
    have hn : n.natAbs = 0 := by
      by_contra hne
      exact head?_digitsOf_ne hne hzero
    rw [numeral, hn]
    rfl
  | double x => exact Binary.wellFormed_numeral h
  | single x => exact Binary.wellFormed_numeral h

/-! ### Sources of values -/

mutual

/-- What a reader makes of the text of a value. -/
def toSource : Json → Source
  | null => .null
  | bool b => .bool b
  | number n => .number n.numeral
  | text s => .text (some s)
  | array xs => .array (toSources xs)
  | object ms => .object (toMembers ms)

/-- What a reader makes of the items of an array. -/
def toSources : List Json → List Source
  | [] => []
  | x :: xs => toSource x :: toSources xs

/-- What a reader makes of the members of an object. -/
def toMembers : List (String × Json) → List (Option String × Source)
  | [] => []
  | (k, v) :: ms => (some k, toSource v) :: toMembers ms

end

mutual

/-- Whether all numbers of a value are finite. -/
def IsFinite : Json → Prop
  | number n => n.IsFinite
  | array xs => AreFinite xs
  | object ms => MembersFinite ms
  | _ => True

/-- Whether all numbers of the items of an array are finite. -/
def AreFinite : List Json → Prop
  | [] => True
  | x :: xs => IsFinite x ∧ AreFinite xs

/-- Whether all numbers of the members of an object are finite. -/
def MembersFinite : List (String × Json) → Prop
  | [] => True
  | (_, v) :: ms => IsFinite v ∧ MembersFinite ms

end

theorem areFinite_iff {xs : List Json} : AreFinite xs ↔ ∀ x ∈ xs, x.IsFinite := by
  induction xs with
  | nil => simp [AreFinite]
  | cons x xs ih => rw [AreFinite, ih, List.forall_mem_cons]

theorem membersFinite_iff {ms : List (String × Json)} :
    MembersFinite ms ↔ ∀ m ∈ ms, m.2.IsFinite := by
  induction ms with
  | nil => simp [MembersFinite]
  | cons m ms ih => rw [MembersFinite, ih, List.forall_mem_cons]

/-! ### Spaces -/

theorem skip_cons {c : Char} (h : Source.isSpace c = false) (cs : List Char) :
    Source.skip (c :: cs) = c :: cs := by
  rw [Source.skip, List.dropWhile_cons_of_neg (by rw [h]; decide)]

/-- A line end and the blanks of a level are passed over. -/
theorem skip_lineAt (level : Nat) (cs : List Char) :
    Source.skip ((lineAt level).toList ++ cs) = Source.skip cs := by
  rw [lineAt, String.toList_ofList, Source.skip, Source.skip]
  refine List.dropWhile_append_of_pos fun c hc => ?_
  rcases List.mem_cons.1 hc with rfl | hc
  · rfl
  · rw [(List.mem_replicate.1 hc).2]
    rfl

theorem value?_lineAt (fuel level : Nat) (cs : List Char) :
    Source.value? fuel ((lineAt level).toList ++ cs) = Source.value? fuel cs := by
  cases fuel with
  | zero => rfl
  | succ fuel => rw [Source.value?, skip_lineAt, ← Source.value?]

theorem ends_lineAt (level : Nat) (cs : List Char) : Ends ((lineAt level).toList ++ cs) := by
  rw [lineAt, String.toList_ofList]
  intro c hc
  obtain rfl : '\n' = c := Option.some.inj hc
  decide

theorem ends_comma (cs : List Char) : Ends (',' :: cs) := by
  intro c hc
  obtain rfl : ',' = c := Option.some.inj hc
  decide

/-! ### The first character -/

theorem value?_null (fuel : Nat) (cs : List Char) :
    Source.value? (fuel + 1) ("null".toList ++ cs) = some (.null, cs) := rfl

theorem value?_bool (b : Bool) (fuel : Nat) (cs : List Char) :
    Source.value? (fuel + 1) ((if b then "true" else "false").toList ++ cs) =
      some (.bool b, cs) := by
  cases b <;> rfl

theorem value?_minus (fuel : Nat) (cs : List Char) : Source.value? (fuel + 1) ('-' :: cs) =
    (Source.numeral? true cs).map fun (n, rest) => (.number n, rest) := rfl

theorem value?_quote (fuel : Nat) (cs : List Char) : Source.value? (fuel + 1) ('"' :: cs) =
    (Source.textBody cs).map fun (s, rest) => (.text (s.map String.ofList), rest) := rfl

theorem value?_bracket (fuel : Nat) (cs : List Char) : Source.value? (fuel + 1) ('[' :: cs) =
    match Source.skip cs with
    | ']' :: rest => some (.array [], rest)
    | rest => (Source.items? fuel rest).map fun (xs, rest) => (.array xs, rest) := rfl

theorem value?_brace (fuel : Nat) (cs : List Char) : Source.value? (fuel + 1) ('{' :: cs) =
    match Source.skip cs with
    | '}' :: rest => some (.object [], rest)
    | rest => (Source.members? fuel rest).map fun (ms, rest) => (.object ms, rest) := rfl

/-- A value that starts with a digit is a number. -/
theorem value?_digit {d : Char} (hd : d.isDigit = true) (fuel : Nat) (cs : List Char) :
    Source.value? (fuel + 1) (d :: cs) =
      (Source.numeral? false (d :: cs)).map fun (n, rest) => (.number n, rest) := by
  have hne {c : Char} (hc : c.isDigit = false) : d ≠ c := fun h => by
    rw [h, hc] at hd
    cases hd
  have hspace : Source.isSpace d = false := by
    simp [Source.isSpace, hne]
  rw [Source.value?, skip_cons hspace]
  split
  case h_8 => rfl
  all_goals
    rename_i heq
    exact absurd (List.cons.inj heq).1 (hne rfl)

/-! ### Numerals -/

/-- A numeral is read as a value. -/
theorem value?_numeral {n : Numeral} (h : n.WellFormed) {rest : List Char} (hrest : Ends rest)
    (fuel : Nat) : Source.value? (fuel + 1) (n.toText ++ rest) = some (.number n, rest) := by
  have hread := Numeral.numeral?_append h hrest
  rw [Numeral.toText]
  split
  · rename_i hnegative
    rw [hnegative] at hread
    rw [List.cons_append, value?_minus, hread, Option.map_some]
  · rename_i hnegative
    rw [Bool.not_eq_true] at hnegative
    obtain ⟨d, ds, hd⟩ : ∃ d ds, n.whole = d :: ds := List.exists_cons_of_ne_nil h.whole_ne
    have hdigit : d.isDigit = true := h.whole d (hd ▸ List.mem_cons_self)
    obtain ⟨cs, hcs⟩ : ∃ cs, n.body ++ rest = d :: cs := ⟨_, by rw [Numeral.body, hd]; rfl⟩
    rw [hnegative, hcs] at hread
    rw [hcs, value?_digit hdigit, hread, Option.map_some]

/-! ### Values -/

theorem value?_text (s : String) (rest : List Char) (fuel : Nat) :
    Source.value? (fuel + 1) ((quote s).toList ++ rest) = some (.text (some s), rest) := by
  rw [toList_quote, List.cons_append, List.append_assoc, List.singleton_append, value?_quote,
    textBody_quote, Option.map_some]
  simp

theorem toList_prettyAt_array (level : Nat) (x : Json) (xs : List Json) :
    (prettyAt level (array (x :: xs))).toList = '[' ::
      ((prettyItems (level + 1) true (x :: xs)).toList ++ ((lineAt level).toList ++ [']'])) := by
  rw [prettyAt]
  simp [String.toList_append]

theorem toList_prettyAt_object (level : Nat) (m : String × Json) (ms : List (String × Json)) :
    (prettyAt level (object (m :: ms))).toList =
      '{' :: ((prettyMembers (level + 1) true (m :: ms)).toList ++
        ((lineAt level).toList ++ ['}'])) := by
  rw [prettyAt]
  simp [String.toList_append]

theorem toList_prettyItems (level : Nat) (x : Json) (xs : List Json) :
    (prettyItems level true (x :: xs)).toList = (lineAt level).toList ++
      ((prettyAt level x).toList ++ (prettyItems level false xs).toList) := by
  rw [prettyItems]
  simp [String.toList_append]

theorem toList_prettyItems_false (level : Nat) (x : Json) (xs : List Json) :
    (prettyItems level false (x :: xs)).toList =
      ',' :: (prettyItems level true (x :: xs)).toList := by
  rw [prettyItems, prettyItems]
  simp [String.toList_append]

theorem toList_prettyMembers (level : Nat) (k : String) (v : Json) (ms : List (String × Json)) :
    (prettyMembers level true ((k, v) :: ms)).toList = (lineAt level).toList ++
      ((quote k).toList ++ ':' :: ' ' ::
        ((prettyAt level v).toList ++ (prettyMembers level false ms).toList)) := by
  rw [prettyMembers]
  simp [String.toList_append]

theorem toList_prettyMembers_false (level : Nat) (m : String × Json) (ms : List (String × Json)) :
    (prettyMembers level false (m :: ms)).toList =
      ',' :: (prettyMembers level true (m :: ms)).toList := by
  obtain ⟨k, v⟩ := m
  rw [prettyMembers, prettyMembers]
  simp [String.toList_append]

/-! ### Containers -/

section Containers

variable {fuel : Nat} {cs tail more rest : List Char} {k : String} {x : Source} {xs : List Source}
  {ms : List (Option String × Source)}

theorem skip_skip (cs : List Char) : Source.skip (Source.skip cs) = Source.skip cs := by
  induction cs with
  | nil => rfl
  | cons c cs ih =>
    cases h : Source.isSpace c with
    | false => rw [skip_cons h, skip_cons h]
    | true => rwa [Source.skip, Source.skip, List.dropWhile_cons_of_pos h]

theorem value?_skip (fuel : Nat) (cs : List Char) :
    Source.value? fuel (Source.skip cs) = Source.value? fuel cs := by
  cases fuel with
  | zero => rfl
  | succ fuel => rw [Source.value?, skip_skip, ← Source.value?]

theorem items?_skip (fuel : Nat) (cs : List Char) :
    Source.items? fuel (Source.skip cs) = Source.items? fuel cs := by
  cases fuel with
  | zero => rfl
  | succ fuel => rw [Source.items?, Source.items?, value?_skip]

theorem members?_skip (fuel : Nat) (cs : List Char) :
    Source.members? fuel (Source.skip cs) = Source.members? fuel cs := by
  cases fuel with
  | zero => rfl
  | succ fuel => rw [Source.members?, Source.members?, skip_skip]

/-- Items make an array. -/
theorem value?_array (h : Source.items? fuel cs = some (xs, rest)) :
    Source.value? (fuel + 1) ('[' :: cs) = some (.array xs, rest) := by
  rw [← items?_skip] at h
  rw [value?_bracket]
  split
  · -- a closing bracket is no item
    rename_i heq
    rw [heq] at h
    cases fuel with
    | zero => cases h
    | succ fuel =>
      cases fuel with
      | zero => cases h
      | succ fuel => cases h
  · rw [h, Option.map_some]

/-- Members make an object. -/
theorem value?_object (h : Source.members? fuel cs = some (ms, rest)) :
    Source.value? (fuel + 1) ('{' :: cs) = some (.object ms, rest) := by
  rw [← members?_skip] at h
  rw [value?_brace]
  split
  · -- a closing brace is no member
    rename_i heq
    rw [heq] at h
    cases fuel with
    | zero => cases h
    | succ fuel => cases h
  · rw [h, Option.map_some]

/-- An item with a bracket behind it is the last one. -/
theorem items?_last (hx : Source.value? fuel cs = some (x, tail))
    (htail : Source.skip tail = ']' :: rest) :
    Source.items? (fuel + 1) cs = some ([x], rest) := by
  simp [Source.items?, hx, htail]

theorem items?_more (hx : Source.value? fuel cs = some (x, tail))
    (htail : Source.skip tail = ',' :: more) (hmore : Source.items? fuel more = some (xs, rest)) :
    Source.items? (fuel + 1) cs = some (x :: xs, rest) := by
  simp [Source.items?, hx, htail, hmore]

variable (hcs : Source.skip cs = (quote k).toList ++ ':' :: more)
  (hx : Source.value? fuel more = some (x, tail))

include hcs hx

theorem members?_last (htail : Source.skip tail = '}' :: rest) :
    Source.members? (fuel + 1) cs = some ([(some k, x)], rest) := by
  have htext := textBody_quote k (':' :: more)
  have hcolon := skip_cons (c := ':') rfl more
  rw [toList_quote, List.cons_append, List.append_assoc, List.singleton_append] at hcs
  simp [Source.members?, hcs, htext, hcolon, hx, htail]

theorem members?_more {past : List Char} (htail : Source.skip tail = ',' :: past)
    (hms : Source.members? fuel past = some (ms, rest)) :
    Source.members? (fuel + 1) cs = some ((some k, x) :: ms, rest) := by
  have htext := textBody_quote k (':' :: more)
  have hcolon := skip_cons (c := ':') rfl more
  rw [toList_quote, List.cons_append, List.append_assoc, List.singleton_append] at hcs
  simp [Source.members?, hcs, htext, hcolon, hx, htail, hms]

end Containers

/-! ### Values -/

/-- Whether a value is read back from its text. -/
def ReadsBack (v : Json) : Prop :=
  ∀ (level fuel : Nat) (rest : List Char), Ends rest →
    2 * (prettyAt level v).toList.length ≤ fuel →
      Source.value? (fuel + 1) ((prettyAt level v).toList ++ rest) = some (v.toSource, rest)

/-- Whether the items of an array are read back from their text, up to the closing bracket. -/
def ItemsReadBack (xs : List Json) : Prop :=
  xs ≠ [] → ∀ (level fuel : Nat) (rest : List Char),
    2 * (prettyItems (level + 1) true xs).toList.length ≤ fuel + 1 →
      Source.items? (fuel + 1) ((prettyItems (level + 1) true xs).toList ++
        ((lineAt level).toList ++ ']' :: rest)) = some (toSources xs, rest)

/-- Whether the members of an object are read back from their text, up to the closing brace. -/
def MembersReadBack (ms : List (String × Json)) : Prop :=
  ms ≠ [] → ∀ (level fuel : Nat) (rest : List Char),
    2 * (prettyMembers (level + 1) true ms).toList.length ≤ fuel + 1 →
      Source.members? (fuel + 1) ((prettyMembers (level + 1) true ms).toList ++
        ((lineAt level).toList ++ '}' :: rest)) = some (toMembers ms, rest)

theorem length_lineAt_pos (level : Nat) : 0 < (lineAt level).toList.length := by
  rw [lineAt, String.toList_ofList]
  exact Nat.succ_pos _

/-- A finite number is read back. -/
theorem readsBack_number {n : Number} (hn : n.IsFinite) : ReadsBack (number n) := by
  intro level fuel rest hrest _
  rw [prettyAt, Number.toList_toText hn, value?_numeral (Number.wellFormed_numeral hn) hrest,
    toSource]

/-- An array is read back if its items are. -/
theorem readsBack_array {xs : List Json} (h : ItemsReadBack xs) : ReadsBack (array xs) := by
  intro level fuel rest hrest hfuel
  -- behind an item there is the bracket, or a comma and more items
  cases xs with
  | nil =>
    rw [prettyAt, toSource, toSources]
    rfl
  | cons x xs =>
    rw [toList_prettyAt_array] at hfuel ⊢
    simp only [List.length_cons, List.length_append, List.cons_append, List.append_assoc,
      List.nil_append] at hfuel ⊢
    obtain ⟨fuel, rfl⟩ : ∃ n, fuel = n + 1 := ⟨fuel - 1, by omega⟩
    rw [value?_array (h (List.cons_ne_nil _ _) level fuel rest (by omega)), toSource]

/-- An object is read back if its members are. -/
theorem readsBack_object {ms : List (String × Json)} (h : MembersReadBack ms) :
    ReadsBack (object ms) := by
  intro level fuel rest hrest hfuel
  -- behind a member there is the brace, or a comma and more members
  cases ms with
  | nil =>
    rw [prettyAt, toSource, toMembers]
    rfl
  | cons m ms =>
    rw [toList_prettyAt_object] at hfuel ⊢
    simp only [List.length_cons, List.length_append, List.cons_append, List.append_assoc,
      List.nil_append] at hfuel ⊢
    obtain ⟨fuel, rfl⟩ : ∃ n, fuel = n + 1 := ⟨fuel - 1, by omega⟩
    rw [value?_object (h (List.cons_ne_nil _ _) level fuel rest (by omega)), toSource]

/-- Items are read back if the first one is, and the others are. -/
theorem itemsReadBack_cons {x : Json} {xs : List Json} (hx : ReadsBack x)
    (hxs : ItemsReadBack xs) : ItemsReadBack (x :: xs) := by
  intro _ level fuel rest hfuel
  have hline := length_lineAt_pos (level + 1)
  rw [toList_prettyItems] at hfuel ⊢
  simp only [List.length_append] at hfuel
  obtain ⟨fuel, rfl⟩ : ∃ n, fuel = n + 1 := ⟨fuel - 1, by omega⟩
  rw [List.append_assoc, List.append_assoc, toSources]
  cases xs with
  | nil =>
    rw [prettyItems, String.toList_empty, List.nil_append]
    have htail : Source.skip ((lineAt level).toList ++ ']' :: rest) = ']' :: rest := by
      rw [skip_lineAt, skip_cons rfl]
    refine items?_last ?_ htail
    rw [value?_lineAt]
    exact hx (level + 1) fuel _ (ends_lineAt level _) (by omega)
  | cons y ys =>
    rw [toList_prettyItems_false, List.length_cons] at hfuel
    rw [toList_prettyItems_false, List.cons_append]
    refine items?_more ?_ (skip_cons rfl _) (hxs (List.cons_ne_nil _ _) level fuel rest (by omega))
    rw [value?_lineAt]
    exact hx (level + 1) fuel _ (ends_comma _) (by omega)

/-- Members are read back if the value of the first one is, and the others are. -/
theorem membersReadBack_cons {k : String} {v : Json} {ms : List (String × Json)}
    (hv : ReadsBack v) (hms : MembersReadBack ms) : MembersReadBack ((k, v) :: ms) := by
  intro _ level fuel rest hfuel
  have hline := length_lineAt_pos (level + 1)
  rw [toList_prettyMembers] at hfuel ⊢
  simp only [List.length_append, List.length_cons] at hfuel
  obtain ⟨fuel, rfl⟩ : ∃ n, fuel = n + 1 := ⟨fuel - 1, by omega⟩
  rw [List.append_assoc, List.append_assoc, List.cons_append, List.cons_append, List.append_assoc,
    toMembers]
  -- the line break in front of the key and the blank in front of the value are skipped
  have hkey (cs : List Char) : Source.skip ((lineAt (level + 1)).toList ++
      ((quote k).toList ++ ':' :: ' ' :: cs)) = (quote k).toList ++ ':' :: ' ' :: cs := by
    rw [skip_lineAt, toList_quote]
    exact skip_cons rfl _
  have hblank (cs : List Char) : Source.value? (fuel + 1) (' ' :: cs) =
      Source.value? (fuel + 1) cs := by
    rw [← value?_skip, Source.skip, List.dropWhile_cons_of_pos rfl, ← Source.skip, value?_skip]
  cases ms with
  | nil =>
    rw [prettyMembers, String.toList_empty, List.nil_append]
    have htail : Source.skip ((lineAt level).toList ++ '}' :: rest) = '}' :: rest := by
      rw [skip_lineAt, skip_cons rfl]
    refine members?_last (hkey _) ?_ htail
    rw [hblank]
    exact hv (level + 1) fuel _ (ends_lineAt level _) (by omega)
  | cons m ms =>
    rw [toList_prettyMembers_false, List.length_cons] at hfuel
    rw [toList_prettyMembers_false, List.cons_append]
    refine members?_more (hkey _) ?_ (skip_cons rfl _)
      (hms (List.cons_ne_nil _ _) level fuel rest (by omega))
    rw [hblank]
    exact hv (level + 1) fuel _ (ends_comma _) (by omega)

mutual

/-- A value whose numbers are finite is read back from its text. -/
theorem readsBack : ∀ (v : Json), v.IsFinite → ReadsBack v
  | null, _ => fun _ _ _ _ _ => by rw [prettyAt, value?_null, toSource]
  | bool b, _ => fun _ _ _ _ _ => by rw [prettyAt, value?_bool, toSource]
  | number _, h => readsBack_number h
  | text _, _ => fun _ _ _ _ _ => by rw [prettyAt, value?_text, toSource]
  | array xs, h => readsBack_array (itemsReadBack xs h)
  | object ms, h => readsBack_object (membersReadBack ms h)

/-- Items of finite numbers are read back. -/
theorem itemsReadBack : ∀ (xs : List Json), AreFinite xs → ItemsReadBack xs
  | [], _ => fun h => absurd rfl h
  | x :: xs, h => itemsReadBack_cons (readsBack x h.1) (itemsReadBack xs h.2)

/-- Members of finite numbers are read back. -/
theorem membersReadBack : ∀ (ms : List (String × Json)), MembersFinite ms → MembersReadBack ms
  | [], _ => fun h => absurd rfl h
  | (_, v) :: ms, h => membersReadBack_cons (readsBack v h.1) (membersReadBack ms h.2)

end

/-- The text of a value whose numbers are finite is read as what the value stands for. -/
theorem read?_pretty {v : Json} (h : v.IsFinite) : Source.read? v.pretty = some v.toSource := by
  have hends : Ends [] := fun c hc => by cases hc
  have hread := readsBack v h 0 (2 * (prettyAt 0 v).toList.length + 1) [] hends (by omega)
  rw [List.append_nil] at hread
  rw [Source.read?, Source.readFront?, pretty, hread]
  rfl

end CancellationPolicy.Json
