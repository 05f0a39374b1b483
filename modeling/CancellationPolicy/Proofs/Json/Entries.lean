import CancellationPolicy.Proofs.Keyed
import CancellationPolicy.Settings.Lookup

/-!
# Entries of a document

`Json.entries` walks through the objects of a document and lists what is no object, each value under
the names that lead to it.  Whatever some names lead to has its entries among these
(`mem_entries_of_follow?`).

A document is `Nested` if the names of each object increase and no object in it is empty.  Then no
names lead to a place without entries (`Nested.entries_ne_nil_of_follow?`).
-/

namespace CancellationPolicy.Json

/-! ### Entries -/

mutual

/-- The values in a document that are no objects, each under the names that lead to it. -/
def entries : Json → List (List String × Json)
  | object ms => memberEntries ms
  | v => [([], v)]

/-- The values in members that are no objects, each under the names that lead to it. -/
def memberEntries : List (String × Json) → List (List String × Json)
  | [] => []
  | (k, v) :: ms => (entries v).map (fun e => (k :: e.1, e.2)) ++ memberEntries ms

end

variable {ms ns : List (String × Json)} {names : List String} {v w : Json}

theorem entries_of_ne_object (h : ∀ ms, v ≠ object ms) : entries v = [([], v)] := by
  cases v with
  | object ms => exact absurd rfl (h ms)
  | _ => rfl

theorem memberEntries_eq_flatMap (ms : List (String × Json)) :
    memberEntries ms = ms.flatMap fun m => m.2.entries.map fun e => (m.1 :: e.1, e.2) := by
  induction ms with
  | nil => rfl
  | cons m ms ih => rw [memberEntries, ih, List.flatMap_cons]

/-- Members in another order have their entries in another order. -/
theorem memberEntries_perm (h : ms.Perm ns) : (memberEntries ms).Perm (memberEntries ns) := by
  rw [memberEntries_eq_flatMap, memberEntries_eq_flatMap]
  exact h.flatMap_right _

theorem mem_memberEntries {k : String} {e : List String × Json} (hv : (k, v) ∈ ms)
    (he : e ∈ v.entries) : (k :: e.1, e.2) ∈ memberEntries ms := by
  rw [memberEntries_eq_flatMap]
  exact List.mem_flatMap.2 ⟨(k, v), hv, List.mem_map.2 ⟨e, he, rfl⟩⟩

/-! ### Following names -/

theorem follow?_cons (k : String) (names : List String) (v : Json) :
    v.follow? (k :: names) = (v.member? k).bind (follow? names) := rfl

theorem exists_of_follow?_cons {k : String} (h : v.follow? (k :: names) = some w) :
    ∃ ms u, v = object ms ∧ (k, u) ∈ ms ∧ u.follow? names = some w := by
  obtain ⟨u, hu, hw⟩ := Option.bind_eq_some_iff.1 h
  cases v with
  | object ms => exact ⟨ms, u, rfl, Keyed.mem_of_find?_eq_some hu, hw⟩
  | _ => cases hu

/-- What names lead to has its entries in the document, under these names. -/
theorem mem_entries_of_follow? (h : v.follow? names = some w) {e : List String × Json}
    (he : e ∈ w.entries) : (names ++ e.1, e.2) ∈ v.entries := by
  induction names generalizing v with
  | nil =>
    obtain rfl : v = w := Option.some.inj h
    exact he
  | cons k names ih =>
    obtain ⟨ms, u, rfl, hu, hw⟩ := exists_of_follow?_cons h
    exact mem_memberEntries hu (ih hw)

/-! ### Nested documents -/

/-- Members whose names increase, as do those of every object in them, none of which is empty. -/
inductive Nested : Keyed Json → Prop
  /-- Objects are made of members that satisfy the same. -/
  | intro {ms : Keyed Json} (sorted : Keyed.Sorted ms)
    (filled : ∀ k inner, (k, object inner) ∈ ms → inner ≠ [])
    (nested : ∀ k inner, (k, object inner) ∈ ms → Nested inner) : Nested ms

theorem nested_nil : Nested [] := .intro .nil nofun nofun

theorem Nested.sorted (h : Nested ms) : Keyed.Sorted ms := by
  cases h
  assumption

theorem Nested.filled (h : Nested ms) {k : String} {inner : Keyed Json}
    (hm : (k, object inner) ∈ ms) : inner ≠ [] := by
  cases h with
  | intro _ filled _ => exact filled k inner hm

theorem Nested.nested (h : Nested ms) {k : String} {inner : Keyed Json}
    (hm : (k, object inner) ∈ ms) : Nested inner := by
  cases h with
  | intro _ _ nested => exact nested k inner hm

/-- Nested members that are not empty have entries. -/
theorem Nested.memberEntries_ne_nil (h : Nested ms) (hne : ms ≠ []) : memberEntries ms ≠ [] := by
  induction h with
  | @intro ms _ filled _ ih =>
    obtain ⟨⟨k, v⟩, hm⟩ := List.exists_mem_of_ne_nil ms hne
    have hv : v.entries ≠ [] := by
      cases v with
      | object inner => exact ih k inner hm (filled k inner hm)
      | _ => exact List.cons_ne_nil _ _
    obtain ⟨e, he⟩ := List.exists_mem_of_ne_nil _ hv
    exact List.ne_nil_of_mem (mem_memberEntries hm he)

/-- Names lead to nothing that has no entries. -/
theorem Nested.entries_ne_nil_of_follow? (h : Nested ms) (hnames : names ≠ [])
    (hw : (object ms).follow? names = some w) : w.entries ≠ [] := by
  induction names generalizing ms with
  | nil => exact absurd rfl hnames
  | cons k names ih =>
    obtain ⟨_, u, hms, hu, hw⟩ := exists_of_follow?_cons hw
    obtain rfl := object.inj hms
    cases names with
    | nil =>
      -- at the last name, an object is not empty, and anything else is an entry
      obtain rfl : u = w := Option.some.inj hw
      cases u with
      | object inner => exact (h.nested hu).memberEntries_ne_nil (h.filled hu)
      | _ => exact List.cons_ne_nil _ _
    | cons j names =>
      obtain ⟨inner, _, rfl, -⟩ := exists_of_follow?_cons hw
      exact ih (h.nested hu) (List.cons_ne_nil _ _) hw

end CancellationPolicy.Json
