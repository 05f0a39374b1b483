import CancellationPolicy.Proofs.Floating.Interval

/-!
# The total order of numbers

`Binary.totalCompare` compares values first, an undefined number having the greatest of all, and
then signs, which only tells the two zeros apart (`totalCompare_eq`).  So it is a total order of all
numbers, in which no two different ones count as equal (`eq_of_compare_eq`).  Among numbers that are
at most some other one it refines the order by value (`le_of_isLE_compare`).
-/

namespace CancellationPolicy.Binary

open Extended

variable {f : Format} {x y z : Binary f}

/-! ### Ranks -/

/-- The value of a number; behind all values, the place of one that is not defined. -/
def place (x : Binary f) : WithTop Extended :=
  match x.value? with
  | some a => a
  | none => ⊤

/-- Whether a number has no minus sign. -/
def isUnsigned (x : Binary f) : Bool := !x.isNegative

theorem place_of_value? {a : Extended} (h : x.value? = some a) : x.place = a := by
  rw [place, h]

theorem place_of_value?_none (h : x.value? = none) : x.place = ⊤ := by
  rw [place, h]

theorem eq_nan_of_value? (h : x.value? = none) : x = nan := by
  cases x with
  | nan => rfl
  | infinity n => cases h
  | finite n m e hc => cases h

/-- A number that is not defined comes behind one that has a value. -/
theorem compare_place_of_value? {a : Extended} (hx : x.value? = some a) (hy : y.value? = none) :
    compare x.place y.place = .lt := by
  rw [place_of_value? hx, place_of_value?_none hy]
  exact compare_lt_iff_lt.2 (WithTop.coe_lt_top a)

theorem compare_isUnsigned (x y : Binary f) :
    compare y.isNegative.toNat x.isNegative.toNat = compare x.isUnsigned y.isUnsigned := by
  unfold isUnsigned
  cases x.isNegative <;> cases y.isNegative <;> rfl

/-- The total order compares places, and signs where these are the same. -/
theorem totalCompare_eq (x y : Binary f) :
    totalCompare x y = (compare x.place y.place).then (compare x.isUnsigned y.isUnsigned) := by
  unfold totalCompare
  rw [compare?_eq, compare_isUnsigned]
  -- what has no value comes behind everything that has one
  cases hx : x.value? with
  | none =>
    obtain rfl := eq_nan_of_value? hx
    cases hy : y.value? with
    | none =>
      obtain rfl := eq_nan_of_value? hy
      have hplace : compare (nan : Binary f).place nan.place = .eq := Std.ReflCmp.compare_self
      rw [hplace]
      rfl
    | some b =>
      rw [Std.OrientedCmp.gt_of_lt (compare_place_of_value? hy hx)]
      cases y with
      | nan => cases hy
      | infinity n => rfl
      | finite n m e hc => rfl
  | some a =>
    cases hy : y.value? with
    | none =>
      rw [compare_place_of_value? hx hy]
      cases x with
      | nan => cases hx
      | infinity n => rfl
      | finite n m e hc => rfl
    | some b =>
      have hcmp : cmp a b = compare x.place y.place := by
        rw [place_of_value? hx, place_of_value? hy, ← cmp_eq_compare]
        exact (WithTop.coe_strictMono.cmp_map_eq a b).symm
      rw [Option.bind_some, Option.map_some, hcmp]
      cases compare x.place y.place <;> rfl

instance : Std.TransOrd (Binary f) := by
  have hcompare : (compare : Binary f → Binary f → Ordering) =
      compareLex (compareOn place) (compareOn isUnsigned) :=
    funext fun x => funext fun y => totalCompare_eq x y
  show Std.TransCmp compare
  rw [hcompare]
  infer_instance

/-! ### Equal numbers -/

/-- Numbers compare as equal exactly if they have the same place and the same sign. -/
theorem compare_eq_iff : compare x y = .eq ↔ x.place = y.place ∧ x.isUnsigned = y.isUnsigned := by
  show totalCompare x y = .eq ↔ _
  rw [totalCompare_eq, Ordering.then_eq_eq, compare_eq_iff_eq, compare_eq_iff_eq]

/-- A number is determined by its value and its sign. -/
theorem eq_of_value?_of_isNegative {a : Extended} (hx : x.value? = some a) (hy : y.value? = some a)
    (hsign : x.isNegative = y.isNegative) : x = y := by
  cases x with
  | nan => cases hx
  | infinity n =>
    cases y with
    | nan => cases hy
    | infinity k =>
      obtain rfl : n = k := hsign
      rfl
    | finite k m e h =>
      obtain rfl := Option.some.inj hx
      cases n <;> cases hy
  | finite n m e h =>
    cases y with
    | nan => cases hy
    | infinity k =>
      obtain rfl := Option.some.inj hy
      cases k <;> cases hx
    | finite k l d h' =>
      obtain rfl : n = k := hsign
      rw [value?, ← hx, value?, Option.some.injEq] at hy
      have hvalue : signed n (l * 2 ^ d) = signed n (m * 2 ^ e) :=
        WithTop.coe_injective (WithBot.coe_injective hy)
      have hsame : (l : ℚ) * 2 ^ d = m * 2 ^ e := by
        cases n
        · exact hvalue
        · exact neg_inj.1 hvalue
      obtain ⟨rfl, rfl⟩ := canonical_unique h' h hsame
      rfl

theorem eq_of_compare_eq (h : compare x y = .eq) : x = y := by
  obtain ⟨hplace, hsign⟩ := compare_eq_iff.1 h
  cases hx : x.value? with
  | none =>
    obtain rfl := eq_nan_of_value? hx
    cases hy : y.value? with
    | none => exact (eq_nan_of_value? hy).symm
    | some b =>
      rw [place_of_value?_none hx, place_of_value? hy] at hplace
      exact absurd hplace.symm (WithTop.coe_ne_top (a := b))
  | some a =>
    cases hy : y.value? with
    | none =>
      rw [place_of_value?_none hy, place_of_value? hx] at hplace
      exact absurd hplace (WithTop.coe_ne_top (a := a))
    | some b =>
      rw [place_of_value? hx, place_of_value? hy] at hplace
      obtain rfl := WithTop.coe_injective hplace
      exact eq_of_value?_of_isNegative hx hy (Bool.not_inj hsign)

/-! ### The order by value -/

instance : IsTrans (Binary f) (· ≤ ·) := ⟨fun _ _ _ => le_trans⟩

/-- A number that is at least some other one is at least itself. -/
theorem le_self_of_le (h : x ≤ y) : y ≤ y := by
  obtain ⟨-, -, b, hb, -⟩ := le_iff.1 h
  exact le_iff.2 ⟨b, hb, b, hb, le_rfl⟩

/-- Of two numbers that have values the one that comes first is not the greater one. -/
theorem le_of_isLE_compare {c : Binary f} (h : (compare x y).isLE = true) (hx : x ≤ c)
    (hy : y ≤ c) : x ≤ y := by
  obtain ⟨a, ha, -⟩ := le_iff.1 hx
  obtain ⟨b, hb, -⟩ := le_iff.1 hy
  refine le_iff.2 ⟨a, ha, b, hb, ?_⟩
  -- a greater value would come later, whatever the signs are
  rw [← not_lt]
  intro hlt
  have hgt : totalCompare x y = .gt := by
    rw [totalCompare_eq, place_of_value? ha, place_of_value? hb,
      compare_gt_iff_gt.2 (WithTop.coe_lt_coe.2 hlt)]
    rfl
  rw [show compare x y = .gt from hgt] at h
  cases h

/-- What is at most a number is below what has a value and is not at most that number. -/
theorem lt_of_not_le {c d : Binary f} (hx : x ≤ c) (hy : y ≤ d) (h : ¬y ≤ c) : x < y := by
  obtain ⟨a, ha, v, hv, hav⟩ := le_iff.1 hx
  obtain ⟨b, hb, -⟩ := le_iff.1 hy
  have hvb : v < b := not_le.1 fun hbv => h (le_iff.2 ⟨b, hb, v, hv, hbv⟩)
  exact lt_iff.2 ⟨a, ha, b, hb, hav.trans_lt hvb⟩

end CancellationPolicy.Binary
