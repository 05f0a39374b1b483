import CancellationPolicy.Proofs.Json.Entries
import CancellationPolicy.Rule.Draft

/-!
# Fields of a map

The fields of a map are those of its entries, each at the path that its names make up
(`fieldsBelow?_eq`).  This is the path whose segments they are, but without the empty names in front
(`foldl_pathBelow_eq`).
-/

namespace CancellationPolicy.Rule

open Json (entries memberEntries)

/-! ### Paths -/

/-- Below a path that is not empty every name is put behind a dot. -/
theorem foldl_pathBelow_of_ne {base : String} (hbase : base ≠ "") (names : List String) :
    names.foldl pathBelow base = ".".intercalate (base :: names) := by
  induction names generalizing base with
  | nil => simp
  | cons k names ih =>
    have hpath : pathBelow base k = base ++ "." ++ k := if_neg hbase
    have hne : base ++ "." ++ k ≠ "" := by simp [hbase]
    rw [List.foldl_cons, hpath, ih hne, String.intercalate_cons_append,
      String.intercalate_cons_cons]

/-- Names are joined by dots, except that empty ones in front of all others are left out. -/
theorem foldl_pathBelow_eq (names : List String) :
    names.foldl pathBelow "" = ".".intercalate (names.dropWhile (· = "")) := by
  induction names with
  | nil => rfl
  | cons k names ih =>
    have hfirst : pathBelow "" k = k := if_pos rfl
    by_cases hk : k = ""
    · rw [List.foldl_cons, hfirst, List.dropWhile_cons_of_pos (by simpa using hk), hk, ih]
    · rw [List.foldl_cons, hfirst, List.dropWhile_cons_of_neg (by simpa using hk),
        foldl_pathBelow_of_ne hk]

/-- Names that are not empty are joined by dots. -/
theorem foldl_pathBelow {names : List String} (h : ∀ s ∈ names, s ≠ "") :
    names.foldl pathBelow "" = ".".intercalate names := by
  rw [foldl_pathBelow_eq]
  cases names with
  | nil => rfl
  | cons k names => rw [List.dropWhile_cons_of_neg (by simpa using h k List.mem_cons_self)]

/-! ### Fields -/

/-- The fields of the entries of a document, with the path at which the document lies. -/
def entryFields? (path : String) (es : List (List String × Json)) : Option (List Field) :=
  (es.mapM fun e => fieldsAt? (e.1.foldl pathBelow path) e.2).map List.flatten

/-- Entries one behind another give their fields one behind another. -/
theorem entryFields?_append (path : String) (es fs : List (List String × Json)) :
    entryFields? path (es ++ fs) =
      (entryFields? path es).bind fun xs => (entryFields? path fs).map (xs ++ ·) := by
  unfold entryFields?
  rw [List.mapM_append]
  cases es.mapM fun e => fieldsAt? (e.1.foldl pathBelow path) e.2 with
  | none => rfl
  | some xs =>
    cases fs.mapM fun e => fieldsAt? (e.1.foldl pathBelow path) e.2 with
    | none => rfl
    | some ys => exact congrArg some List.flatten_append

theorem entryFields?_cons (path : String) (e : List String × Json) (es : List (List String × Json)) :
    entryFields? path (e :: es) =
      (fieldsAt? (e.1.foldl pathBelow path) e.2).bind fun xs =>
        (entryFields? path es).map (xs ++ ·) := by
  rw [← List.singleton_append, entryFields?_append]
  cases hfields : fieldsAt? (e.1.foldl pathBelow path) e.2 with
  | none => simp [entryFields?, hfields]
  | some xs => simp [entryFields?, hfields]

theorem entryFields?_map (path k : String) (es : List (List String × Json)) :
    entryFields? path (es.map fun e => (k :: e.1, e.2)) = entryFields? (pathBelow path k) es := by
  unfold entryFields?
  rw [List.mapM_map]
  rfl

mutual

/-- The fields of a document are those of its entries. -/
theorem fieldsAt?_eq (path : String) :
    (v : Json) → fieldsAt? path v = entryFields? path (entries v)
  | .null => rfl
  | .bool _ => rfl
  | .number _ => rfl
  | .text _ => rfl
  | .array _ => rfl
  | .object ms => fieldsBelow?_eq path ms

/-- The fields of members are those of their entries. -/
theorem fieldsBelow?_eq (path : String) :
    (ms : List (String × Json)) → fieldsBelow? path ms = entryFields? path (memberEntries ms)
  | [] => rfl
  | (k, v) :: ms => by
    rw [fieldsBelow?, fieldsAt?_eq (pathBelow path k) v, fieldsBelow?_eq path ms, memberEntries,
      entryFields?_append, entryFields?_map]
    cases entryFields? (pathBelow path k) (entries v) with
    | none => rfl
    | some fs => cases entryFields? path (memberEntries ms) <;> rfl

end

/-- Entries that are texts or numbers give one field each. -/
theorem exists_entryFields? (path : String) {es : List (List String × Json)}
    (h : ∀ e ∈ es, ∃ t, ∀ p, fieldsAt? p e.2 = some [.ofTemplate p t]) :
    ∃ fs, entryFields? path es = some fs ∧
      fs.map Field.path = es.map fun e => e.1.foldl pathBelow path := by
  induction es with
  | nil => exact ⟨[], rfl, rfl⟩
  | cons e es ih =>
    obtain ⟨⟨t, ht⟩, hes⟩ := List.forall_mem_cons.1 h
    obtain ⟨fs, hfs, hpaths⟩ := ih hes
    refine ⟨.ofTemplate (e.1.foldl pathBelow path) t :: fs, ?_, congrArg _ hpaths⟩
    rw [entryFields?_cons, ht, hfs]
    rfl

end CancellationPolicy.Rule
