import Mathlib.Data.List.Basic
import CancellationPolicy.Proofs.Rule.FieldMap

/-!
# Nested maps of fields

A map gives fields unless it is no object or a list is reached in it through objects
(`fieldsOf?_eq_none_iff`).  Every text, number and truth value in it then fills one field with the
expression that its text is read as (`fieldsOf?_eq_some`).

The same values in a map of one level, under their names joined by dots, fill the fields of these
names (`fieldsOf?_flattened`).  The nested map fills the same ones, unless an empty name stands in
front of others: it adds nothing to the path, as if what lies below it were not nested in it at all,
and is lost (`fieldsOf?_flattens`).  An empty name in any other place is kept.
-/

namespace CancellationPolicy

namespace Json

variable {v : Json} {ms : List (String × Json)}

/-- The text that a value gives for an expression, if it is a text, a number or a truth value. -/
def template? : Json → Option String
  | .bool b => some (if b then "true" else "false")
  | .number n => some n.toText
  | .text s => some s
  | _ => none

/-- The texts that the values in a document give for expressions, each under the names that lead to
it. -/
def templates (v : Json) : List (List String × String) :=
  v.entries.filterMap fun e => (template? e.2).map (e.1, ·)

/-- The values in a document that are no objects, each under the names that lead to it, joined by
dots. -/
def flattened (v : Json) : List (String × Json) :=
  v.entries.map fun e => (".".intercalate e.1, e.2)

mutual

theorem ne_object_of_mem_entries :
    (v : Json) → ∀ e ∈ v.entries, ∀ ms, e.2 ≠ object ms
  | .null | .bool _ | .number _ | .text _ | .array _ => by simp [entries]
  | .object ms => ne_object_of_mem_memberEntries ms

theorem ne_object_of_mem_memberEntries :
    (ms : List (String × Json)) → ∀ e ∈ memberEntries ms, ∀ ns, e.2 ≠ object ns
  | [] => by simp [memberEntries]
  | (k, v) :: ms => by
    intro e he
    rcases List.mem_append.1 he with he | he
    · obtain ⟨d, hd, rfl⟩ := List.mem_map.1 he
      exact ne_object_of_mem_entries v d hd
    · exact ne_object_of_mem_memberEntries ms e he

end

/-- Where no value is an object, each is an entry under its own name. -/
theorem memberEntries_of_ne_object (h : ∀ m ∈ ms, ∀ ns, m.2 ≠ object ns) :
    memberEntries ms = ms.map fun m => ([m.1], m.2) := by
  induction ms with
  | nil => rfl
  | cons m ms ih =>
    obtain ⟨hm, hms⟩ := List.forall_mem_cons.1 h
    rw [memberEntries, entries_of_ne_object hm, ih hms]
    rfl

/-- The entries of a flattened document are those of the document under joined names. -/
theorem entries_flattened (v : Json) :
    (object (flattened v)).entries = v.entries.map fun e => ([".".intercalate e.1], e.2) := by
  have hvalues : ∀ m ∈ flattened v, ∀ ns, m.2 ≠ object ns := by
    intro m hm
    obtain ⟨e, he, rfl⟩ := List.mem_map.1 hm
    exact ne_object_of_mem_entries v e he
  rw [entries, memberEntries_of_ne_object hvalues, flattened, List.map_map]
  rfl

end Json

namespace Rule

open Json (template? templates flattened entries memberEntries)

variable {v : Json} {es : List (List String × Json)} {names : List String} {fs : List Field}
  {path : String}

/-! ### Fields of entries -/

/-- A value that is neither a list nor an object gives one field, if it has a text. -/
theorem fieldsAt?_of_scalar (hobject : ∀ ms, v ≠ .object ms) (harray : ∀ items, v ≠ .array items)
    (path : String) : fieldsAt? path v = some ((template? v).map (Field.ofTemplate path)).toList := by
  cases v with
  | array items => exact absurd rfl (harray items)
  | object ms => exact absurd rfl (hobject ms)
  | _ => rfl

/-- Scalars give fields, but for those that are null. -/
theorem entryFields?_of_scalars (hobject : ∀ e ∈ es, ∀ ms, e.2 ≠ .object ms)
    (harray : ∀ e ∈ es, ∀ items, e.2 ≠ .array items) :
    entryFields? path es = some (es.filterMap fun e =>
      (template? e.2).map (Field.ofTemplate (e.1.foldl pathBelow path))) := by
  induction es with
  | nil => rfl
  | cons e es ih =>
    obtain ⟨ho, hobject⟩ := List.forall_mem_cons.1 hobject
    obtain ⟨ha, harray⟩ := List.forall_mem_cons.1 harray
    rw [entryFields?_cons, fieldsAt?_of_scalar ho ha, ih hobject harray, List.filterMap_cons]
    cases template? e.2 <;> rfl

/-- A list among the entries leaves no fields. -/
theorem entryFields?_eq_none {e : List String × Json} {items : List Json} (he : e ∈ es)
    (harray : e.2 = .array items) : entryFields? path es = none := by
  induction es with
  | nil => cases he
  | cons d es ih =>
    rw [entryFields?_cons]
    rcases List.mem_cons.1 he with rfl | he
    · rw [harray]
      rfl
    · rw [ih he]
      cases fieldsAt? (d.1.foldl pathBelow path) d.2 <;> rfl

/-! ### Fields of a map -/

theorem fieldsOf?_object (ms : List (String × Json)) :
    fieldsOf? (.object ms) = entryFields? "" (Json.object ms).entries :=
  fieldsBelow?_eq "" ms

/-- A map gives no fields exactly if it is no object, or a list is reached in it through objects. -/
theorem fieldsOf?_eq_none_iff (v : Json) :
    fieldsOf? v = none ↔
      (∀ ms, v ≠ .object ms) ∨ ∃ names items, (names, .array items) ∈ v.entries := by
  cases v with
  | object ms =>
    rw [fieldsOf?_object]
    constructor
    · intro hnone
      by_contra hneither
      rw [not_or] at hneither
      -- without lists, each entry is a scalar
      have harray : ∀ e ∈ (Json.object ms).entries, ∀ items, e.2 ≠ .array items :=
        fun e he items heq => hneither.2 ⟨e.1, items, heq ▸ he⟩
      rw [entryFields?_of_scalars (Json.ne_object_of_mem_entries _) harray] at hnone
      cases hnone
    · rintro (hobject | ⟨names, items, hmem⟩)
      · exact absurd rfl (hobject ms)
      · exact entryFields?_eq_none hmem rfl
  | _ => exact iff_of_true rfl (.inl nofun)

/-- The fields of the texts in a map, each at the path that all its names make up. -/
def joinedFields (v : Json) : List Field :=
  (templates v).map fun t => .ofTemplate (".".intercalate t.1) t.2

/-- A map gives one field for every text in it, at the path that its names make up without the empty
ones in front. -/
theorem fieldsOf?_eq_some (h : fieldsOf? v = some fs) :
    fs = (templates v).map fun t => .ofTemplate (".".intercalate (t.1.dropWhile (· = ""))) t.2 := by
  have hsome : ¬fieldsOf? v = none := by
    rw [h]
    exact Option.some_ne_none fs
  rw [fieldsOf?_eq_none_iff, not_or] at hsome
  obtain ⟨hobject, harray⟩ := hsome
  obtain ⟨ms, rfl⟩ := not_forall_not.1 hobject
  rw [fieldsOf?_object, entryFields?_of_scalars (Json.ne_object_of_mem_entries _)
    (fun e he items heq => harray ⟨e.1, items, heq ▸ he⟩)] at h
  rw [← Option.some.inj h, templates, List.map_filterMap]
  refine List.filterMap_congr fun e _ => ?_
  rw [foldl_pathBelow_eq, Option.map_map]
  rfl

/-! ### Maps of one level -/

/-- Flattening joins the names in front of templates. -/
theorem templates_flattened (v : Json) :
    templates (.object (flattened v)) =
      (templates v).map fun t => ([".".intercalate t.1], t.2) := by
  rw [templates, Json.entries_flattened, templates, List.filterMap_map, List.map_filterMap]
  refine List.filterMap_congr fun e _ => ?_
  rw [Option.map_map]
  rfl

/-- One name makes up the path that it is. -/
theorem intercalate_dropWhile_singleton (k : String) :
    ".".intercalate ([k].dropWhile (· = "")) = k := by
  by_cases hk : k = ""
  · rw [hk]
    rfl
  · rw [List.dropWhile_cons_of_neg (by simpa using hk), String.intercalate_singleton]

/-- A map of one level, under names that are joined by dots, gives the fields of these names. -/
theorem fieldsOf?_flattened (h : fieldsOf? v = some fs) :
    fieldsOf? (.object (flattened v)) = some (joinedFields v) := by
  have hsome : ¬fieldsOf? (.object (flattened v)) = none := by
    rw [fieldsOf?_eq_none_iff, not_or]
    refine ⟨fun hobject => hobject _ rfl, ?_⟩
    -- a list in the map of one level is a list that lies deeper in the document
    rintro ⟨names, items, hmem⟩
    rw [Json.entries_flattened] at hmem
    obtain ⟨e, he, heq⟩ := List.mem_map.1 hmem
    have hlist : (e.1, .array items) ∈ v.entries := (Prod.mk.inj heq).2 ▸ he
    have hnone := (fieldsOf?_eq_none_iff v).2 (.inr ⟨e.1, items, hlist⟩)
    rw [h] at hnone
    cases hnone
  obtain ⟨gs, hgs⟩ := Option.ne_none_iff_exists'.1 hsome
  rw [hgs, fieldsOf?_eq_some hgs, templates_flattened, List.map_map, joinedFields]
  refine congrArg some (List.map_congr_left fun t _ => ?_)
  rw [Function.comp_apply, intercalate_dropWhile_singleton]

/-- The order of the members of a map decides only the order of its fields. -/
theorem exists_fieldsOf?_of_perm {ms ns : List (String × Json)} (hperm : ns.Perm ms)
    (h : fieldsOf? (.object ms) = some fs) :
    ∃ gs, fieldsOf? (.object ns) = some gs ∧ gs.Perm fs := by
  -- the same entries come in another order
  have hentries : (Json.object ns).entries.Perm (Json.object ms).entries :=
    Json.memberEntries_perm hperm
  have hsome : ¬fieldsOf? (.object ns) = none := by
    rw [fieldsOf?_eq_none_iff, not_or]
    refine ⟨fun hobject => hobject _ rfl, ?_⟩
    rintro ⟨names, items, hmem⟩
    have hnone := (fieldsOf?_eq_none_iff (.object ms)).2
      (.inr ⟨names, items, hentries.mem_iff.1 hmem⟩)
    rw [h] at hnone
    cases hnone
  obtain ⟨gs, hgs⟩ := Option.ne_none_iff_exists'.1 hsome
  refine ⟨gs, hgs, ?_⟩
  rw [fieldsOf?_eq_some hgs, fieldsOf?_eq_some h]
  exact (hentries.filterMap _).map _

/-! ### Empty names -/

/-- Whether an empty name stands in front of others. -/
def HasEmptyFront (names : List String) : Prop := names.head? = some "" ∧ 1 < names.length

instance (names : List String) : Decidable (HasEmptyFront names) :=
  inferInstanceAs (Decidable (_ ∧ _))

theorem length_intercalate_dropWhile_le (names : List String) :
    (".".intercalate (names.dropWhile (· = ""))).length ≤ (".".intercalate names).length := by
  induction names with
  | nil => exact Nat.le_refl _
  | cons k names ih =>
    by_cases hk : k = ""
    · rw [List.dropWhile_cons_of_pos (by simpa using hk)]
      cases names with
      | nil => exact Nat.zero_le _
      | cons j names =>
        rw [String.intercalate_cons_cons, String.length_append]
        omega
    · have hkept : (k :: names).dropWhile (· = "") = k :: names :=
        List.dropWhile_cons_of_neg (by simpa using hk)
      exact Nat.le_of_eq (by rw [hkept])

/-- Empty names in front add nothing to a path exactly if they are not followed by any other. -/
theorem intercalate_dropWhile_eq_iff (names : List String) :
    ".".intercalate (names.dropWhile (· = "")) = ".".intercalate names ↔ ¬HasEmptyFront names := by
  cases names with
  | nil => decide
  | cons k names =>
    by_cases hk : k = ""
    · subst hk
      cases names with
      | nil => decide
      | cons j names =>
        refine iff_of_false (fun heq => ?_) (not_not.2 ⟨rfl, by simp⟩)
        -- the dot behind the empty name is missing
        have hle := length_intercalate_dropWhile_le (j :: names)
        have hlength := congrArg String.length heq
        rw [List.dropWhile_cons_of_pos (by simp), String.intercalate_cons_cons,
          String.length_append, String.length_append] at hlength
        have hdot : ".".length = 1 := rfl
        omega
    · have hfront : ¬HasEmptyFront (k :: names) := fun h => hk (Option.some.inj h.1)
      rw [List.dropWhile_cons_of_neg (by simpa using hk)]
      exact iff_of_true rfl hfront

/-- A map gives no fields exactly if it is no object or a list is reached in it through objects.
Else it gives one field for every text, number and truth value, filled by what its text is read as,
at the path that its names make up without the empty ones in front.  The map of one level with the
joined names gives the fields of all names.  A nested map gives the same fields exactly if nothing
in it has an empty name in front of others, and then two values fill one path only if their joined
names are equal. -/
theorem fieldsOf?_flattens (v : Json) :
    (fieldsOf? v = none ↔
      (∀ ms, v ≠ .object ms) ∨ ∃ names items, (names, .array items) ∈ v.entries) ∧
    ∀ fs, fieldsOf? v = some fs →
      fs = (templates v).map
        (fun t => .ofTemplate (".".intercalate (t.1.dropWhile (· = ""))) t.2) ∧
      fieldsOf? (.object (flattened v)) = some (joinedFields v) ∧
      (((flattened v).map Prod.fst).Nodup →
        ∃ gs, fieldsOf? (.ofMembers (flattened v)) = some gs ∧ gs.Perm (joinedFields v)) ∧
      (fs = joinedFields v ↔ ∀ t ∈ templates v, ¬HasEmptyFront t.1) ∧
      ((∀ t ∈ templates v, ¬HasEmptyFront t.1) → ∀ t ∈ templates v, ∀ u ∈ templates v,
        ".".intercalate (t.1.dropWhile (· = "")) = ".".intercalate (u.1.dropWhile (· = "")) →
          ".".intercalate t.1 = ".".intercalate u.1) := by
  refine ⟨fieldsOf?_eq_none_iff v, fun fs hfs => ?_⟩
  have hflat := fieldsOf?_flattened hfs
  have hfields := fieldsOf?_eq_some hfs
  refine ⟨hfields, hflat, fun hnodup => ?_, ?_, fun hfront t ht u hu hpath => ?_⟩
  · exact exists_fieldsOf?_of_perm (Keyed.ofList_perm hnodup) hflat
  · -- a field holds its path as it is, so it is enough to compare the paths
    rw [hfields, joinedFields, List.map_inj_left]
    refine forall₂_congr fun t _ => ?_
    rw [← intercalate_dropWhile_eq_iff]
    exact ⟨fun heq => (Field.mk.inj heq).1, fun heq => by rw [heq]⟩
  · rwa [(intercalate_dropWhile_eq_iff _).2 (hfront t ht),
      (intercalate_dropWhile_eq_iff _).2 (hfront u hu)] at hpath

/-- A percentage and a night count below `fee` and a day count under its full path. -/
def feeAndWindow : Json :=
  .object [("fee", .object [("nights", .text "$n"), ("percent", .number (.int 50)),
    ("type", .null)]), ("window.cutoff_days", .text "$days")]

theorem fieldsOf?_flattens_feeAndWindow :
    let fields : List Field := [.ofTemplate "fee.nights" "$n", .ofTemplate "fee.percent" "50",
      .ofTemplate "window.cutoff_days" "$days"]
    fieldsOf? feeAndWindow = some fields ∧
      fieldsOf? (.object (flattened feeAndWindow)) = some fields ∧
      ∃ gs, fieldsOf? (.ofMembers (flattened feeAndWindow)) = some gs ∧ gs.Perm fields := by
  intro fields
  have hfields : fieldsOf? feeAndWindow = some fields := rfl
  obtain ⟨-, hflat, hmembers, hsame, -⟩ := (fieldsOf?_flattens feeAndWindow).2 fields hfields
  rw [← hsame.2 (by decide)] at hflat hmembers
  exact ⟨hfields, hflat, hmembers (by decide)⟩

/-- Two values with different names fill one path, since the name in front of the first is empty. -/
theorem fieldsOf?_emptyName :
    let v : Json := .object [("", .object [("a", .text "1")]), ("a", .text "2")]
    flattened v = [(".a", .text "1"), ("a", .text "2")] ∧
      fieldsOf? v = some [.ofTemplate "a" "1", .ofTemplate "a" "2"] ∧
      fieldsOf? (.object (flattened v)) = some [.ofTemplate ".a" "1", .ofTemplate "a" "2"] ∧
      fieldsOf? (.object (flattened v)) ≠ fieldsOf? v := by
  refine ⟨rfl, rfl, rfl, ?_⟩
  intro heq
  have hpath : ".a" = "a" := congrArg Field.path (List.cons.inj (Option.some.inj heq)).1
  exact absurd hpath (by decide)

end Rule

end CancellationPolicy
