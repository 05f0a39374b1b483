/-! # Entries by name

A `Keyed α` lists entries under names, in increasing order of the names. The
order is that of the code points, which is also the order of the UTF-8 bytes.

Main statements: `find?_insert_self` and `find?_insert_of_ne`, by which an
insertion sets one entry and leaves the others, and `insert_sorted`.
-/

namespace CancellationPolicy

/-- Entries under names, in increasing order of the names. -/
abbrev Keyed (α : Type) := List (String × α)

namespace Keyed

variable {α β : Type}

/-- Sets the entry under a name. -/
def insert (k : String) (v : α) : Keyed α → Keyed α
  | [] => [(k, v)]
  | (j, w) :: rest =>
    if k = j then (k, v) :: rest
    else if k < j then (k, v) :: (j, w) :: rest
    else (j, w) :: insert k v rest

/-- The entry under a name. -/
def find? (k : String) : Keyed α → Option α
  | [] => none
  | (j, w) :: rest => if k = j then some w else find? k rest

/-- Whether there is an entry under a name. -/
def has (k : String) (m : Keyed α) : Bool := (find? k m).isSome

/-- The entries of a list of pairs; of two with one name the later stays. -/
def ofList (ps : List (String × α)) : Keyed α := ps.foldl (fun m p => insert p.1 p.2 m) []

/-- The names, in increasing order. -/
def names (m : Keyed α) : List String := m.map Prod.fst

/-- Names strictly increase. -/
def Sorted (m : Keyed α) : Prop := m.Pairwise fun p q => p.1 < q.1

/-! ### Insertion -/

@[simp] theorem find?_nil (k : String) : find? k ([] : Keyed α) = none := rfl

theorem find?_insert_self (k : String) (v : α) (m : Keyed α) : find? k (insert k v m) = some v := by
  induction m with
  | nil => simp [insert, find?]
  | cons p m ih =>
    obtain ⟨j, w⟩ := p
    unfold insert
    split
    · simp [find?]
    · rename_i h
      split
      · simp [find?]
      · simp [find?, h, ih]

theorem find?_insert_of_ne {k j : String} (h : j ≠ k) (v : α) (m : Keyed α) :
    find? j (insert k v m) = find? j m := by
  induction m with
  | nil => simp [insert, find?, h]
  | cons p m ih =>
    obtain ⟨i, w⟩ := p
    unfold insert
    split
    · rename_i hk; subst hk; simp [find?, h]
    · split
      · simp [find?, h]
      · simp [find?, ih]

theorem mem_insert {k : String} {v : α} {m : Keyed α} {p : String × α}
    (h : p ∈ insert k v m) : p = (k, v) ∨ p ∈ m := by
  induction m with
  | nil => simpa [insert] using h
  | cons q m ih =>
    obtain ⟨i, w⟩ := q
    unfold insert at h
    split at h
    · rcases List.mem_cons.1 h with h | h
      · exact .inl h
      · exact .inr (List.mem_cons_of_mem _ h)
    · split at h
      · rcases List.mem_cons.1 h with h | h
        · exact .inl h
        · exact .inr h
      · rcases List.mem_cons.1 h with h | h
        · exact .inr (h ▸ List.mem_cons_self)
        · rcases ih h with h | h
          · exact .inl h
          · exact .inr (List.mem_cons_of_mem _ h)

/-- Insertion keeps the order of the names. -/
theorem insert_sorted {m : Keyed α} (hm : Sorted m) (k : String) (v : α) :
    Sorted (insert k v m) := by
  induction m with
  | nil => simp [insert, Sorted]
  | cons q m ih =>
    obtain ⟨i, w⟩ := q
    have hq := List.pairwise_cons.1 hm
    unfold insert
    split
    -- the name is there, and its value is replaced
    · rename_i hk; subst hk; exact List.pairwise_cons.2 ⟨hq.1, hq.2⟩
    · rename_i hne
      split
      -- the entry goes in front of the first greater name
      · rename_i hlt
        refine List.pairwise_cons.2 ⟨fun p hp => ?_, hm⟩
        rcases List.mem_cons.1 hp with rfl | hp
        · exact hlt
        · exact String.lt_trans hlt (hq.1 p hp)
      · rename_i hnlt
        have hik : i < k := Std.lt_of_le_of_ne (String.not_lt.1 hnlt) (Ne.symm hne)
        refine List.pairwise_cons.2 ⟨fun p hp => ?_, ih hq.2⟩
        rcases mem_insert hp with rfl | hp
        · exact hik
        · exact hq.1 p hp

end Keyed

end CancellationPolicy
