import CancellationPolicy.Keyed

/-!
# Membership in entries by name

What an insertion does to the entries themselves and to their names (`mem_insert_iff`,
`mem_names_insert`), and that among entries of different names a look-up finds exactly what is there
(`find?_eq_some_iff_of_nodup`), in whatever order they are (`find?_eq_of_perm`).  An insertion
leaves the entries under other names as they are (`filter_insert`), so in sorted entries it replaces
at most one entry (`insert_perm`).  Insertions under two names may change places (`insert_comm`),
and sorted entries are determined by which entries there are (`eq_of_mem_iff`).  The entries of a
list are sorted, and those of sorted entries are the same again (`ofList_sorted`,
`ofList_of_sorted`).  None is lost if they have different names (`ofList_perm`).  A look-up among
the entries of a list finds one of the list, if there is one of that name (`exists_find?_ofList`).
-/

namespace CancellationPolicy.Keyed

variable {α : Type} {m n : Keyed α} {i j k : String} {v : α}

/-! ### Look-ups and members -/

/-- What is found is an entry. -/
theorem mem_of_find?_eq_some (h : find? k m = some v) : (k, v) ∈ m := by
  induction m with
  | nil => simp at h
  | cons p m ih =>
    obtain ⟨i, w⟩ := p
    rw [find?] at h
    split at h
    · rename_i hk
      rw [hk, Option.some.inj h]
      exact List.mem_cons_self
    · exact List.mem_cons_of_mem _ (ih h)

/-- Nothing is found exactly under what is no name. -/
theorem find?_eq_none_iff : find? k m = none ↔ k ∉ names m := by
  induction m with
  | nil => simp [names]
  | cons p m ih =>
    obtain ⟨i, w⟩ := p
    rw [find?, names, List.map_cons, List.mem_cons]
    by_cases hk : k = i
    · simp [hk]
    · simp only [hk, if_false, false_or]
      exact ih

theorem has_iff : has k m = true ↔ k ∈ names m := by
  rw [has, Option.isSome_iff_ne_none, ne_eq, find?_eq_none_iff, Decidable.not_not]

theorem mem_names_of_mem (h : (k, v) ∈ m) : k ∈ names m :=
  List.mem_map.2 ⟨_, h, rfl⟩

/-- Among entries of different names every entry is found. -/
theorem find?_eq_some_iff_of_nodup (hm : (names m).Nodup) : find? k m = some v ↔ (k, v) ∈ m := by
  refine ⟨mem_of_find?_eq_some, fun h => ?_⟩
  induction m with
  | nil => cases h
  | cons p m ih =>
    obtain ⟨i, w⟩ := p
    obtain ⟨hi, hm⟩ := List.nodup_cons.1 hm
    rw [find?]
    rcases List.mem_cons.1 h with hhead | htail
    · obtain ⟨rfl, rfl⟩ := Prod.mk.inj hhead
      rw [if_pos rfl]
    · -- the entries in front of it do not have its name
      have hne : k ≠ i := fun hki => hi (hki ▸ mem_names_of_mem htail)
      rw [if_neg hne]
      exact ih hm htail

/-- What is found among entries of different names does not depend on their order. -/
theorem find?_eq_of_perm (hm : (names m).Nodup) (h : m.Perm n) (k : String) :
    find? k m = find? k n := by
  have hn : (names n).Nodup := (h.map Prod.fst).nodup_iff.1 hm
  ext v
  rw [find?_eq_some_iff_of_nodup hm, find?_eq_some_iff_of_nodup hn, h.mem_iff]

theorem find?_map {β : Type} (f : α → β) (m : Keyed α) (k : String) :
    find? k (m.map fun p => (p.1, f p.2)) = (find? k m).map f := by
  induction m with
  | nil => rfl
  | cons p m ih =>
    obtain ⟨i, w⟩ := p
    rw [List.map_cons, find?, find?, ih]
    split <;> rfl

theorem nodup_names (hm : Sorted m) : (names m).Nodup := by
  refine List.pairwise_map.2 (hm.imp ?_)
  intro p q hlt heq
  rw [heq] at hlt
  exact String.lt_irrefl _ hlt

/-- In sorted entries every entry is found. -/
theorem find?_eq_some_iff (hm : Sorted m) : find? k m = some v ↔ (k, v) ∈ m :=
  find?_eq_some_iff_of_nodup (nodup_names hm)

/-! ### Insertion -/

theorem mem_names_insert : j ∈ names (insert k v m) ↔ j = k ∨ j ∈ names m := by
  rw [← has_iff, ← has_iff, has, has]
  by_cases hjk : j = k
  · rw [hjk, find?_insert_self]
    simp
  · rw [find?_insert_of_ne hjk]
    simp [hjk]

theorem mem_insert_self : (k, v) ∈ insert k v m :=
  mem_of_find?_eq_some (find?_insert_self k v m)

theorem mem_insert_of_mem {p : String × α} (hp : p ∈ m) (hne : p.1 ≠ k) : p ∈ insert k v m := by
  induction m with
  | nil => cases hp
  | cons q m ih =>
    obtain ⟨i, w⟩ := q
    unfold insert
    split
    · rename_i hk
      rcases List.mem_cons.1 hp with rfl | hp
      · exact absurd hk.symm hne
      · exact List.mem_cons_of_mem _ hp
    · split
      · exact List.mem_cons_of_mem _ hp
      · rcases List.mem_cons.1 hp with rfl | hp
        · exact List.mem_cons_self
        · exact List.mem_cons_of_mem _ (ih hp)

/-- Under a new name an insertion only adds an entry. -/
theorem mem_insert_iff (hk : k ∉ names m) {p : String × α} :
    p ∈ insert k v m ↔ p = (k, v) ∨ p ∈ m := by
  refine ⟨mem_insert, ?_⟩
  rintro (rfl | hp)
  · exact mem_insert_self
  · apply mem_insert_of_mem hp
    rintro rfl
    exact hk (mem_names_of_mem hp)

/-- An insertion leaves the entries under other names, and their order. -/
theorem filter_insert (k : String) (v : α) (m : Keyed α) :
    (insert k v m).filter (·.1 ≠ k) = m.filter (·.1 ≠ k) := by
  induction m with
  | nil => simp [insert]
  | cons q m ih =>
    obtain ⟨i, w⟩ := q
    unfold insert
    split
    · rename_i hk
      simp [hk]
    · split
      · rw [List.filter_cons_of_neg (by simp)]
      · rw [List.filter_cons, List.filter_cons, ih]

/-- Under a new name an insertion only adds an entry, wherever it is put. -/
theorem insert_perm_cons (hk : k ∉ names m) (v : α) : (insert k v m).Perm ((k, v) :: m) := by
  induction m with
  | nil => exact .refl _
  | cons p m ih =>
    obtain ⟨i, u⟩ := p
    rw [names, List.map_cons, List.mem_cons, not_or] at hk
    rw [insert, if_neg hk.1]
    split
    · exact .refl _
    · exact ((ih hk.2).cons _).trans (.swap _ _ _)

theorem insert_cons_of_gt (h : i < k) (u v : α) (m : Keyed α) :
    insert k v ((i, u) :: m) = (i, u) :: insert k v m := by
  have hne : k ≠ i := by
    rintro rfl
    exact String.lt_irrefl _ h
  rw [insert, if_neg hne, if_neg (String.lt_asymm h)]

/-- A name in front of all others is put at the front. -/
theorem insert_of_lt_head (h : ∀ p ∈ m.head?, k < p.1) (v : α) : insert k v m = (k, v) :: m := by
  cases m with
  | nil => rfl
  | cons p m =>
    obtain ⟨i, u⟩ := p
    have hlt : k < i := h (i, u) rfl
    have hne : k ≠ i := by
      rintro rfl
      exact String.lt_irrefl _ hlt
    rw [insert, if_neg hne, if_pos hlt]

/-- The first name after an insertion is the new one or the one that was first. -/
theorem lt_head_insert (hj : k < j) (h : ∀ p ∈ m.head?, k < p.1) (w : α) :
    ∀ p ∈ (insert j w m).head?, k < p.1 := by
  cases m with
  | nil => simpa [insert] using hj
  | cons p m =>
    obtain ⟨i, u⟩ := p
    have hi : k < i := h (i, u) rfl
    unfold insert
    split
    · simpa using hj
    · split
      · simpa using hj
      · simpa using hi

/-- Inserting under two names gives the same in either order. -/
theorem insert_comm_of_lt (h : k < j) (v w : α) (m : Keyed α) :
    insert j w (insert k v m) = insert k v (insert j w m) := by
  induction m with
  | nil =>
    rw [insert_of_lt_head (m := insert j w []) (lt_head_insert h (by simp) w)]
    exact insert_cons_of_gt h v w []
  | cons p m ih =>
    obtain ⟨i, u⟩ := p
    -- the first name is below both, or it is the lesser one, or it is above it
    by_cases hik : i < k
    · have hij : i < j := String.lt_trans hik h
      rw [insert_cons_of_gt hik, insert_cons_of_gt hij, insert_cons_of_gt hij,
        insert_cons_of_gt hik, ih]
    · by_cases hki : k = i
      · subst hki
        rw [insert, if_pos rfl, insert_cons_of_gt h, insert_cons_of_gt h, insert, if_pos rfl]
      · have hlt : k < i := Std.lt_of_le_of_ne (String.not_lt.1 hik) hki
        have hhead : ∀ p ∈ List.head? ((i, u) :: m), k < p.1 := by simpa using hlt
        rw [insert_of_lt_head hhead, insert_cons_of_gt h,
          insert_of_lt_head (lt_head_insert h hhead w)]

/-- Insertions under two names may change places. -/
theorem insert_comm (h : j ≠ k) (v w : α) (m : Keyed α) :
    insert j w (insert k v m) = insert k v (insert j w m) := by
  by_cases hlt : k < j
  · exact insert_comm_of_lt hlt v w m
  · exact (insert_comm_of_lt (Std.lt_of_le_of_ne (String.not_lt.1 hlt) h) w v m).symm

/-! ### Sorted entries -/

theorem nodup_of_sorted (hm : Sorted m) : m.Nodup :=
  List.Pairwise.of_map Prod.fst (fun _ _ hne heq => hne (congrArg Prod.fst heq)) (nodup_names hm)

/-- Sorted entries are determined by which entries there are. -/
theorem eq_of_mem_iff (hm : Sorted m) (hn : Sorted n) (h : ∀ p, p ∈ m ↔ p ∈ n) : m = n := by
  have hperm : m.Perm n :=
    (List.perm_ext_iff_of_nodup (nodup_of_sorted hm) (nodup_of_sorted hn)).2 h
  exact hperm.eq_of_pairwise (fun _ _ _ _ hlt hgt => absurd hgt (String.lt_asymm hlt)) hm hn

/-- Sorted entries are determined by what is found under each name. -/
theorem eq_of_find? (hm : Sorted m) (hn : Sorted n) (h : ∀ k, find? k m = find? k n) : m = n :=
  eq_of_mem_iff hm hn fun ⟨k, v⟩ => by
    rw [← find?_eq_some_iff hm, ← find?_eq_some_iff hn, h]

theorem sorted_map {β : Type} (hm : Sorted m) (f : α → β) :
    Sorted (m.map fun p => (p.1, f p.2)) :=
  List.pairwise_map.2 hm

/-- Sorted entries are the one under a name and those under other names. -/
theorem perm_of_find? (hm : Sorted m) (h : find? k m = some v) :
    m.Perm ((k, v) :: m.filter (·.1 ≠ k)) := by
  have hnodup := nodup_of_sorted hm
  have hfilter : ((k, v) :: m.filter (·.1 ≠ k)).Nodup :=
    List.nodup_cons.2 ⟨by simp, hnodup.filter _⟩
  refine (List.perm_ext_iff_of_nodup hnodup hfilter).2 fun p => ?_
  rw [List.mem_cons, List.mem_filter, decide_eq_true_eq]
  constructor
  · intro hp
    by_cases hpk : p.1 = k
    · -- what is found under the name is the only entry that has it
      have hfound := (find?_eq_some_iff hm).2 (show (p.1, p.2) ∈ m from hp)
      rw [hpk, h] at hfound
      exact .inl (Prod.ext hpk (Option.some.inj hfound).symm)
    · exact .inr ⟨hp, hpk⟩
  · rintro (rfl | ⟨hp, -⟩)
    · exact mem_of_find?_eq_some h
    · exact hp

/-- In sorted entries an insertion replaces the entry under the name, if there is one. -/
theorem insert_perm (hm : Sorted m) (k : String) (v : α) :
    (insert k v m).Perm ((k, v) :: m.filter (·.1 ≠ k)) := by
  have h := perm_of_find? (insert_sorted hm k v) (find?_insert_self k v m)
  rwa [filter_insert] at h

/-! ### Entries of a list -/

/-- The entries of a list are sorted. -/
theorem ofList_sorted (ps : List (String × α)) : Sorted (ofList ps) := by
  have hfold : ∀ m : Keyed α, Sorted m → Sorted (ps.foldl (fun m p => insert p.1 p.2 m) m) := by
    induction ps with
    | nil => exact fun _ hm => hm
    | cons p ps ih => exact fun _ hm => ih _ (insert_sorted hm p.1 p.2)
  exact hfold [] List.Pairwise.nil

/-- A name behind all others is put at the end. -/
theorem insert_of_lt (h : ∀ p ∈ m, p.1 < k) : insert k v m = m ++ [(k, v)] := by
  induction m with
  | nil => rfl
  | cons p m ih =>
    obtain ⟨i, w⟩ := p
    obtain ⟨hi, hm⟩ := List.forall_mem_cons.1 h
    rw [insert_cons_of_gt hi, ih hm, List.cons_append]

/-- Sorted entries are the entries of themselves. -/
theorem ofList_of_sorted (hm : Sorted m) : ofList m = m := by
  have hfold (ps front : Keyed α) (h : Sorted (front ++ ps)) :
      ps.foldl (fun m p => insert p.1 p.2 m) front = front ++ ps := by
    induction ps generalizing front with
    | nil => rw [List.foldl_nil, List.append_nil]
    | cons p ps ih =>
      have hlt : ∀ q ∈ front, q.1 < p.1 := fun q hq =>
        (List.pairwise_append.1 h).2.2 q hq p List.mem_cons_self
      rw [List.foldl_cons, insert_of_lt hlt, ih _ (by rwa [List.append_cons] at h),
        ← List.append_cons]
  exact hfold m [] hm

/-- The entries of a map are those from which it is made. -/
theorem mem_of_mem_ofList {ps : List (String × α)} {e : String × α} (h : e ∈ ofList ps) :
    e ∈ ps := by
  have hfold (ps : List (String × α)) (m : Keyed α)
      (h : e ∈ ps.foldl (fun m p => insert p.1 p.2 m) m) : e ∈ m ∨ e ∈ ps := by
    induction ps generalizing m with
    | nil => exact .inl h
    | cons p ps ih =>
      rcases ih _ h with hm | hps
      · exact (mem_insert hm).elim (fun he => .inr (he ▸ List.mem_cons_self)) .inl
      · exact .inr (List.mem_cons_of_mem _ hps)
  exact (hfold ps [] h).resolve_left List.not_mem_nil

/-- The names of a map are those from which it is made. -/
theorem mem_names_ofList (ps : List (String × α)) :
    k ∈ names (ofList ps) ↔ k ∈ ps.map Prod.fst := by
  have hfold (ps : List (String × α)) (m : Keyed α) :
      k ∈ names (ps.foldl (fun m p => insert p.1 p.2 m) m) ↔
        k ∈ names m ∨ k ∈ ps.map Prod.fst := by
    induction ps generalizing m with
    | nil => simp
    | cons p ps ih =>
      rw [List.foldl_cons, ih, mem_names_insert, List.map_cons, List.mem_cons, or_assoc,
        or_left_comm]
  exact (hfold ps []).trans (or_iff_right List.not_mem_nil)

/-- If no two entries of a list have one name, its entries are those of the list. -/
theorem ofList_perm {ps : List (String × α)} (h : (ps.map Prod.fst).Nodup) :
    (ofList ps).Perm ps := by
  -- no name of the rest is in the map so far, so each one is added
  have hfold (ps : List (String × α)) (m : Keyed α) (h : (names m ++ ps.map Prod.fst).Nodup) :
      (ps.foldl (fun m p => insert p.1 p.2 m) m).Perm (m ++ ps) := by
    induction ps generalizing m with
    | nil => rw [List.foldl_nil, List.append_nil]
    | cons p ps ih =>
      have hnew : p.1 ∉ names m := fun hmem =>
        (List.nodup_append.1 h).2.2 p.1 hmem p.1 List.mem_cons_self rfl
      have hinsert := insert_perm_cons hnew p.2
      have hnames : (names (insert p.1 p.2 m) ++ ps.map Prod.fst).Nodup := by
        refine (((hinsert.map Prod.fst).append_right _).nodup_iff).2 ?_
        exact List.perm_middle.nodup_iff.1 h
      exact (ih _ hnames).trans ((hinsert.append_right ps).trans List.perm_middle.symm)
  exact hfold ps [] h

/-- Among the entries of a list of different names the same is found as in the list. -/
theorem find?_ofList {ps : List (String × α)} (h : (ps.map Prod.fst).Nodup) (k : String) :
    find? k (ofList ps) = find? k ps :=
  find?_eq_of_perm (nodup_names (ofList_sorted ps)) (ofList_perm h) k

/-- Under the name of an entry of a list, one of its entries is found. -/
theorem exists_find?_ofList {ps : List (String × α)} {e : String × α} (h : e ∈ ps) :
    ∃ v, find? e.1 (ofList ps) = some v ∧ (e.1, v) ∈ ps := by
  have hname := (mem_names_ofList ps).2 (List.mem_map_of_mem h)
  obtain ⟨v, hv⟩ := Option.isSome_iff_exists.1 (has_iff.2 hname)
  exact ⟨v, hv, mem_of_mem_ofList (mem_of_find?_eq_some hv)⟩

end CancellationPolicy.Keyed
