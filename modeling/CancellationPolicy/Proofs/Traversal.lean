import Mathlib.Data.List.Forall2

/-!
# Steps that may fail, one for each entry of a list

If a step is made for each entry of a list, in order, the results are those of the single steps
(`mapM_eq_ok_iff`), and the error is that of the first entry for which the step fails
(`mapM_eq_error_iff`).
-/

namespace CancellationPolicy

/-! ### Entries one by one -/

section Forall₂

variable {α β γ : Type} {r : α → β → Prop} {xs : List α} {ys : List β}

theorem exists_mem_of_forall₂ (h : List.Forall₂ r xs ys) {x : α} (hx : x ∈ xs) :
    ∃ y ∈ ys, r x y := by
  induction h with
  | nil => cases hx
  | @cons _ y _ _ hxy _ ih =>
    rcases List.mem_cons.1 hx with rfl | hx
    · exact ⟨y, List.mem_cons_self, hxy⟩
    · obtain ⟨y', hy', hxy'⟩ := ih hx
      exact ⟨y', List.mem_cons_of_mem _ hy', hxy'⟩

theorem map_eq_of_forall₂ {f : α → γ} {g : β → γ} (h : List.Forall₂ r xs ys)
    (hfg : ∀ y ∈ ys, ∀ x, r x y → f x = g y) : xs.map f = ys.map g := by
  induction h with
  | nil => rfl
  | cons hxy _ ih =>
    obtain ⟨hhead, htail⟩ := List.forall_mem_cons.1 hfg
    rw [List.map_cons, List.map_cons, hhead _ hxy, ih htail]

/-- All steps that may give nothing give something. -/
theorem mapM_eq_some_iff {f : α → Option β} :
    xs.mapM f = some ys ↔ List.Forall₂ (fun x y => f x = some y) xs ys := by
  induction xs generalizing ys with
  | nil => simp [List.forall₂_nil_left_iff, eq_comm]
  | cons x xs ih =>
    rw [List.forall₂_cons_left_iff, List.mapM_cons]
    cases f x with
    | none => simp
    | some y =>
      cases hxs : xs.mapM f with
      | none => simp [← ih, hxs]
      | some zs => simp [← ih, hxs, eq_comm]

end Forall₂

/-! ### Steps -/

variable {α β ε : Type} {f : α → Except ε β} {x : α} {xs : List α} {ys : List β} {e : ε}

theorem mapM_cons_of_ok {y : β} (h : f x = .ok y) :
    (x :: xs).mapM f = (xs.mapM f).map (y :: ·) := by
  rw [List.mapM_cons, h]
  cases xs.mapM f <;> rfl

theorem mapM_cons_of_error (h : f x = .error e) : (x :: xs).mapM f = .error e := by
  rw [List.mapM_cons, h]
  rfl

theorem map_eq_ok_iff {γ : Type} {g : β → γ} {r : Except ε β} {z : γ} :
    r.map g = .ok z ↔ ∃ y, r = .ok y ∧ g y = z := by
  cases r <;> simp [Except.map]

theorem map_eq_error_iff {γ : Type} {g : β → γ} {r : Except ε β} :
    r.map g = .error e ↔ r = .error e := by
  cases r <;> simp [Except.map]

/-- All steps succeed with the results of the single steps. -/
theorem mapM_eq_ok_iff :
    xs.mapM f = .ok ys ↔ List.Forall₂ (fun x y => f x = .ok y) xs ys := by
  induction xs generalizing ys with
  | nil =>
    rw [List.mapM_nil, List.forall₂_nil_left_iff]
    constructor
    · intro h
      exact (Except.ok.inj h).symm
    · rintro rfl
      rfl
  | cons x xs ih =>
    rw [List.forall₂_cons_left_iff]
    cases hx : f x with
    | error e =>
      rw [mapM_cons_of_error hx]
      simp
    | ok y =>
      -- behind a success, the rest decides
      rw [mapM_cons_of_ok hx, map_eq_ok_iff]
      constructor
      · rintro ⟨zs, hzs, rfl⟩
        exact ⟨y, zs, rfl, ih.1 hzs, rfl⟩
      · rintro ⟨z, zs, hz, hzs, rfl⟩
        obtain rfl := Except.ok.inj hz
        exact ⟨zs, ih.2 hzs, rfl⟩

/-- The error is that of the first entry for which the step fails. -/
theorem mapM_eq_error_iff :
    xs.mapM f = .error e ↔ ∃ before x after, xs = before ++ x :: after ∧
      (∀ w ∈ before, ∃ y, f w = .ok y) ∧ f x = .error e := by
  induction xs with
  | nil =>
    rw [List.mapM_nil]
    constructor
    · intro h
      cases h
    · rintro ⟨before, x, after, hnil, -⟩
      simp at hnil
  | cons x xs ih =>
    cases hx : f x with
    | error e' =>
      rw [mapM_cons_of_error hx, Except.error.injEq]
      constructor
      · rintro rfl
        exact ⟨[], x, xs, rfl, by simp, hx⟩
      · rintro ⟨before, w, after, heq, hbefore, hw⟩
        cases before with
        | nil =>
          obtain ⟨rfl, -⟩ := List.cons.inj heq
          exact Except.error.inj (hx.symm.trans hw)
        | cons v before =>
          -- an entry in front of the failing one would have failed itself
          obtain ⟨rfl, -⟩ := List.cons.inj heq
          obtain ⟨y, hy⟩ := hbefore x List.mem_cons_self
          rw [hx] at hy
          cases hy
    | ok y =>
      rw [mapM_cons_of_ok hx, map_eq_error_iff, ih]
      constructor
      · rintro ⟨before, w, after, rfl, hbefore, hw⟩
        exact ⟨x :: before, w, after, rfl, List.forall_mem_cons.2 ⟨⟨y, hx⟩, hbefore⟩, hw⟩
      · rintro ⟨before, w, after, heq, hbefore, hw⟩
        cases before with
        | nil =>
          obtain ⟨rfl, -⟩ := List.cons.inj heq
          rw [hx] at hw
          cases hw
        | cons v before =>
          obtain ⟨rfl, rfl⟩ := List.cons.inj heq
          exact ⟨before, w, after, rfl, (List.forall_mem_cons.1 hbefore).2, hw⟩

/-- All steps succeed if each of them does. -/
theorem exists_mapM_eq_ok_iff : (∃ ys, xs.mapM f = .ok ys) ↔ ∀ x ∈ xs, ∃ y, f x = .ok y := by
  constructor
  · rintro ⟨ys, hys⟩ x hx
    obtain ⟨y, -, hy⟩ := exists_mem_of_forall₂ (mapM_eq_ok_iff.1 hys) hx
    exact ⟨y, hy⟩
  · intro h
    cases hxs : xs.mapM f with
    | ok ys => exact ⟨ys, rfl⟩
    | error e =>
      obtain ⟨before, x, after, rfl, -, hx⟩ := mapM_eq_error_iff.1 hxs
      obtain ⟨y, hy⟩ := h x (List.mem_append_right _ List.mem_cons_self)
      rw [hx] at hy
      cases hy

end CancellationPolicy
