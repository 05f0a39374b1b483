import CancellationPolicy.Proofs.Json.Reading
import CancellationPolicy.Proofs.Json.Single
import CancellationPolicy.Proofs.Keyed
import CancellationPolicy.Settings.Document

/-!
# Decoders read back what is written

What a decoder makes of the source of a value that was written: a number of 32 bits comes back if it
is finite and is an error otherwise (`single?_toSource`), and lists and entries of values come back
if each value does (`listOf?_toSource`, `keyed?_toSource`).  All members of an object are found
(`membersOf?_toSource`).  Whatever was written, what a decoder returns is something that can be
written (`nat?_lt`, `keyed?_sorted`).

A partial inverse is stated by `Option.guard`, which holds the condition and the result.
-/

namespace CancellationPolicy.Json

variable {α : Type} {encode : α → Json} {decode : Source → Option α} {p : α → Bool}

/-! ### Sources of lists -/

theorem toSources_eq_map (xs : List Json) : toSources xs = xs.map toSource := by
  induction xs with
  | nil => rfl
  | cons x xs ih => rw [toSources, ih, List.map_cons]

theorem toMembers_eq_map (ms : List (String × Json)) :
    toMembers ms = ms.map fun m => (some m.1, m.2.toSource) := by
  induction ms with
  | nil => rfl
  | cons m ms ih => rw [toMembers, ih, List.map_cons]

/-! ### Numbers and texts -/

/-- A number that is not finite is written as missing, which needs no finite number. -/
theorem isFinite_single (x : Single) : (single x).IsFinite := by
  rw [single]
  split
  · assumption
  · trivial

theorem single?_toSource (x : Single) :
    Source.single? (single x).toSource = Option.guard Binary.isFinite x := by
  rw [single, Option.guard]
  split
  · rename_i hx
    exact Numeral.value?_numeral hx
  · rfl

/-- A natural number of 64 bits is decoded. -/
theorem nat?_toSource {n : Nat} (hn : n < 2 ^ 64) : Source.nat? (nat n).toSource = some n := by
  have hsignificand : (Number.numeral (.int n)).significand = n := by
    rw [Numeral.significand, Number.numeral, Option.getD_none, List.append_nil, Int.natAbs_natCast,
      ofDigitChars_digitsOf]
  have hvalue := Numeral.value?_eq_int (n := Number.numeral (.int n)) (by simp [Number.numeral]) rfl
    rfl (by rwa [hsignificand])
  rw [hsignificand] at hvalue
  rw [nat, toSource, Source.nat?, Source.intWithin?, hvalue]
  dsimp only
  rw [if_pos ⟨Int.natCast_nonneg n, by simp; omega⟩]
  rfl

theorem text?_toSource (s : String) : Source.text? (text s).toSource = some s := rfl

/-! ### Lists and entries -/

/-- Going through a list comes back with it if each item comes back. -/
theorem mapM_eq_guard {f : α → Option α} (h : ∀ x, f x = Option.guard p x) (xs : List α) :
    xs.mapM f = Option.guard (List.all · p) xs := by
  induction xs with
  | nil => rfl
  | cons x xs ih =>
    rw [List.mapM_cons, ih, h]
    cases hx : p x <;> cases hxs : xs.all p <;> simp [Option.guard, hx, hxs]

theorem listOf?_toSource (h : ∀ x, decode (encode x).toSource = Option.guard p x) (xs : List α) :
    Source.listOf? decode (array (xs.map encode)).toSource = Option.guard (List.all · p) xs := by
  rw [toSource, toSources_eq_map, List.map_map, ← mapM_eq_guard h]
  exact List.mapM_map

theorem texts_toSource (xs : List String) :
    Source.listOf? Source.text? (texts xs).toSource = some xs := by
  have htext (s : String) : Source.text? (text s).toSource = Option.guard (fun _ => true) s := rfl
  rw [texts, listOf?_toSource htext]
  simp [Option.guard]

/-- A map is decoded if all its values are. -/
theorem keyed?_toSource (h : ∀ x, decode (encode x).toSource = Option.guard p x) {m : Keyed α}
    (hm : Keyed.Sorted m) :
    Source.keyed? decode Source.nesting (object (m.map fun e => (e.1, encode e.2))).toSource =
      Option.guard (List.all · fun e => p e.2) m := by
  rw [toSource, toMembers_eq_map, List.map_map, Source.nesting, Source.keyed?, List.mapM_map,
    mapM_eq_guard (p := fun e => p e.2)]
  · rw [Option.guard]
    split
    · rw [Option.map_some, Keyed.ofList_of_sorted hm]
    · rfl
  · intro e
    simp only [Function.comp_apply, h, Option.guard]
    by_cases hp : p e.2 = true <;> simp [hp]

/-! ### Objects -/

/-- A required member is the first of its name. -/
theorem required?_cons {k : String} {m : String × Source} {ms : List (String × Source)} :
    Source.required? k (m :: ms) decode =
      if k = m.1 then decode m.2 else Source.required? k ms decode := by
  rw [Source.required?, Keyed.find?]
  split_ifs <;> rfl

theorem optional?_cons {k : String} {m : String × Source} {ms : List (String × Source)} {d : α} :
    Source.optional? k (m :: ms) d decode =
      if k = m.1 then decode m.2 else Source.optional? k ms d decode := by
  rw [Source.optional?, Keyed.find?]
  split_ifs <;> rfl

/-- If an object has names that are asked for, in their order, all its members are found. -/
theorem membersOf?_toSource {names : List String} {ms : List (String × Json)}
    (hnames : names.Nodup) (hms : (ms.map Prod.fst).Sublist names) :
    Source.membersOf? names (object ms).toSource = some (ms.map fun m => (m.1, m.2.toSource)) := by
  have hmem : ∀ m ∈ ms, m.1 ∈ names := fun m hm => hms.subset (List.mem_map_of_mem hm)
  have hnodup : (ms.map Prod.fst).Nodup := hnames.sublist hms
  clear hms hnames
  rw [toSource, toMembers_eq_map, Source.membersOf?, Source.nesting, Source.fields?]
  · induction ms with
    | nil => rfl
    | cons m ms ih =>
      obtain ⟨hm, hmem⟩ := List.forall_mem_cons.1 hmem
      obtain ⟨hnew, hnodup⟩ := List.nodup_cons.1 hnodup
      rw [List.map_cons, List.foldrM_cons, ih hmem hnodup, Option.bind_eq_bind, Option.bind_some]
      -- a later member of the same name would be an error
      have hany : (ms.map fun m => (m.1, m.2.toSource)).any (·.1 = m.1) = false := by
        rw [List.any_map, List.any_eq_false]
        intro q hq heq
        exact hnew (of_decide_eq_true heq ▸ List.mem_map_of_mem hq)
      simp [hm, hany]
  · decide

/-! ### Results of decoders -/

/-- A natural number that is decoded has at most 64 bits. -/
theorem nat?_lt {x : Source} {n : Nat} (h : Source.nat? x = some n) : n < 2 ^ 64 := by
  rw [Source.nat?, Option.map_eq_some_iff] at h
  obtain ⟨i, hi, rfl⟩ := h
  unfold Source.intWithin? at hi
  split at hi
  · split at hi
    · split at hi
      · rename_i hbounds
        obtain rfl := Option.some.inj hi
        have hpow : ((Nat.pow 2 64 : Nat) : Int) = 2 ^ 64 := rfl
        omega
      · cases hi
    · cases hi
  · cases hi

/-- A map that is decoded is sorted. -/
theorem keyed?_sorted {levels : Nat} {x : Source} {m : Keyed α}
    (h : Source.keyed? decode levels x = some m) : Keyed.Sorted m := by
  unfold Source.keyed? at h
  split at h
  · obtain ⟨ms, -, rfl⟩ := Option.map_eq_some_iff.1 h
    exact Keyed.ofList_sorted ms
  · cases h

/-- What holds of a default and of all results of a decoder holds of a member that may be
missing. -/
theorem optional?_induction {P : α → Prop} {k : String} {ms : List (String × Source)} {d v : α}
    (hdefault : P d) (hdecode : ∀ x v, decode x = some v → P v)
    (h : Source.optional? k ms d decode = some v) : P v := by
  rw [Source.optional?] at h
  split at h
  · exact hdecode _ v h
  · exact Option.some.inj h ▸ hdefault

end CancellationPolicy.Json
