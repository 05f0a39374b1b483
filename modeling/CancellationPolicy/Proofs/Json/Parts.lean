import CancellationPolicy.Proofs.Json.Entries

/-!
# Parts of a document

What holds of all parts of a document (`Json.All`) is a matter of the document and of the parts of
its items or members (`all_array`, `all_object`), and what is to be shown of every document may be
shown for documents whose items and members have it (`Json.induction`).

If the names of each object are different (`HasDistinctNames`), names lead to the same places in a
document and in its wide form (`follow?_widen`).
-/

namespace CancellationPolicy.Json

/-! ### All parts -/

mutual

/-- Whether something holds of a value and of all values in it. -/
def All (p : Json → Prop) : Json → Prop
  | array xs => p (array xs) ∧ AllItems p xs
  | object ms => p (object ms) ∧ AllMembers p ms
  | v => p v

/-- Whether something holds of all items and of all values in them. -/
def AllItems (p : Json → Prop) : List Json → Prop
  | [] => True
  | x :: xs => All p x ∧ AllItems p xs

/-- Whether something holds of all members and of all values in them. -/
def AllMembers (p : Json → Prop) : List (String × Json) → Prop
  | [] => True
  | (_, v) :: ms => All p v ∧ AllMembers p ms

end

variable {p : Json → Prop} {xs : List Json} {ms : List (String × Json)} {names : List String}
  {u v w : Json} {k : String}

theorem all_array : (array xs).All p ↔ p (array xs) ∧ ∀ x ∈ xs, x.All p := by
  have hitems (xs : List Json) : AllItems p xs ↔ ∀ x ∈ xs, x.All p := by
    induction xs with
    | nil => simp [AllItems]
    | cons x xs ih => rw [AllItems, List.forall_mem_cons, ih]
  rw [All, hitems]

theorem all_object : (object ms).All p ↔ p (object ms) ∧ ∀ m ∈ ms, m.2.All p := by
  have hmembers (ms : List (String × Json)) : AllMembers p ms ↔ ∀ m ∈ ms, m.2.All p := by
    induction ms with
    | nil => simp [AllMembers]
    | cons m ms ih => rw [AllMembers, List.forall_mem_cons, ih]
  rw [All, hmembers]

theorem All.self (h : v.All p) : p v := by
  cases v with
  | array xs => exact (all_array.1 h).1
  | object ms => exact (all_object.1 h).1
  | _ => exact h

/-- What holds of all parts holds of all parts of a member. -/
theorem All.member (h : v.All p) (hu : v.member? k = some u) : u.All p := by
  cases v with
  | object ms => exact (all_object.1 h).2 (k, u) (Keyed.mem_of_find?_eq_some hu)
  | _ => cases hu

/-- What holds of all parts holds of all parts of what names lead to. -/
theorem All.follow? (h : v.All p) (hw : v.follow? names = some w) : w.All p := by
  induction names generalizing v with
  | nil =>
    obtain rfl : v = w := Option.some.inj hw
    exact h
  | cons k names ih =>
    obtain ⟨ms, u, rfl, hu, hrest⟩ := exists_of_follow?_cons hw
    exact ih ((all_object.1 h).2 _ hu) hrest

/-- What holds of documents as soon as it holds of their items and members, holds of all. -/
@[elab_as_elim]
theorem induction {motive : Json → Prop} (null : motive null) (bool : ∀ b, motive (bool b))
    (number : ∀ n, motive (number n)) (text : ∀ s, motive (text s))
    (array : ∀ xs, (∀ x ∈ xs, motive x) → motive (array xs))
    (object : ∀ ms, (∀ m ∈ ms, motive m.2) → motive (object ms)) : ∀ v, motive v
  | .null => null
  | .bool b => bool b
  | .number n => number n
  | .text s => text s
  | .array xs => array xs fun x _ => induction null bool number text array object x
  | .object ms => object ms fun m hm => by
    have := List.sizeOf_lt_of_mem hm
    have : sizeOf m.2 < sizeOf m := by
      obtain ⟨k, v⟩ := m
      show sizeOf v < sizeOf (k, v)
      rw [Prod.mk.sizeOf_spec]
      omega
    exact induction null bool number text array object m.2
  termination_by v => sizeOf v

/-! ### Names that lead to a part -/

/-- Whether the names of each object are different. -/
def HasDistinctNames (v : Json) : Prop :=
  v.All fun w => ∀ ms, w = object ms → (ms.map Prod.fst).Nodup

/-- Names lead to the same places in what is made of a document if this has the members that are
made of those of the document. -/
theorem foldlM_eq_map_follow? {β : Type} {member? : String → β → Option β} {f : Json → β}
    (hmember : ∀ v, v.HasDistinctNames → ∀ k, member? k (f v) = (v.member? k).map f)
    (hv : v.HasDistinctNames) (names : List String) :
    names.foldlM (fun x k => member? k x) (f v) = (v.follow? names).map f := by
  induction names generalizing v with
  | nil => rfl
  | cons k names ih =>
    rw [List.foldlM_cons, hmember v hv, follow?_cons]
    cases hu : v.member? k with
    | none => rfl
    | some u => exact ih (hv.member hu)

/-! ### The wide form -/

theorem widenItems_eq_map (xs : List Json) : widenItems xs = xs.map widen := by
  induction xs with
  | nil => rfl
  | cons x xs ih => rw [widenItems, ih, List.map_cons]

theorem widenMembers_eq_map (ms : List (String × Json)) :
    widenMembers ms = ms.map fun m => (m.1, m.2.widen) := by
  induction ms with
  | nil => rfl
  | cons m ms ih => rw [widenMembers, ih, List.map_cons]

theorem widen_object (ms : List (String × Json)) :
    (object ms).widen = object (Keyed.ofList (ms.map fun m => (m.1, m.2.widen))) := by
  rw [widen, ofMembers, widenMembers_eq_map]

theorem map_fst_widen (ms : List (String × Json)) :
    (ms.map fun m => (m.1, m.2.widen)).map Prod.fst = ms.map Prod.fst := by
  rw [List.map_map]
  rfl

theorem find?_widen (h : (ms.map Prod.fst).Nodup) (k : String) :
    Keyed.find? k (Keyed.ofList (ms.map fun m => (m.1, m.2.widen))) =
      (Keyed.find? k ms).map widen := by
  rw [Keyed.find?_ofList (by rwa [map_fst_widen]), Keyed.find?_map]

/-- A member of a widened object is the widened member. -/
theorem member?_widen (hv : v.HasDistinctNames) (k : String) :
    v.widen.member? k = (v.member? k).map widen := by
  cases v with
  | object ms =>
    rw [widen_object]
    exact find?_widen (hv.self ms rfl) k
  | number n =>
    cases n with
    | single x =>
      rw [widen, double]
      split <;> rfl
    | _ => rfl
  | _ => rfl

/-- Names lead to the same places in the wide form. -/
theorem follow?_widen (hv : v.HasDistinctNames) (names : List String) :
    v.widen.follow? names = (v.follow? names).map widen :=
  foldlM_eq_map_follow? (fun _ hv k => member?_widen hv k) hv names

end CancellationPolicy.Json
