/-! # Sets of code points

`CharSet` — sets of code points, held as the increasing list of the code
points at which membership switches.

The set `[a, b, c]` holds the points from `a` up to but not including `b`,
and all points from `c` on. Every boolean combination of two sets is one
sweep over the switches of both (`CharSet.combine`), and complement is the
combination with the empty set.

Main statement: `contains_combine`, which says that membership in a
combination is the combination of the memberships.
-/

namespace CancellationPolicy

/-- A set of code points: membership starts as `false` at zero and switches at
every listed point. The list is increasing. -/
structure CharSet where
  /-- The points at which membership switches. -/
  switches : List Nat
  deriving DecidableEq, Repr

namespace CharSet

/-! ### Membership -/

/-- `inside c now switches` is the membership of `c` when it is `now` below the
first switch. -/
def inside (c : Nat) : Bool → List Nat → Bool
  | now, [] => now
  | now, p :: ps => if c < p then now else inside c (!now) ps

/-- Whether the code point `c` belongs to the set. -/
def contains (s : CharSet) (c : Nat) : Bool := inside c false s.switches

/-- Whether the character `c` belongs to the set. -/
def holds (s : CharSet) (c : Char) : Bool := s.contains c.toNat

/-! ### Construction -/

/-- The set without members. -/
def empty : CharSet := ⟨[]⟩

instance : EmptyCollection CharSet := ⟨empty⟩

/-- The points from `lo` to `hi`, both included. -/
def range (lo hi : Nat) : CharSet := if lo ≤ hi then ⟨[lo, hi + 1]⟩ else ∅

/-- The set of one code point. -/
def single (c : Nat) : CharSet := range c c

/-- Inserts a point into an increasing list. -/
def insertPoint (p : Nat) : List Nat → List Nat
  | [] => [p]
  | q :: qs => if p ≤ q then p :: q :: qs else q :: insertPoint p qs

/-- Puts `p` into an increasing list, and `tail` of what is behind it there. -/
def insertThen (p : Nat) (tail : List Nat → List Nat) : List Nat → List Nat
  | [] => p :: tail []
  | q :: qs => if p ≤ q then p :: tail (q :: qs) else q :: insertThen p tail qs

/-- Merges two increasing lists. -/
def merge : List Nat → List Nat → List Nat
  | [], qs => qs
  | p :: ps, qs => insertThen p (merge ps) qs

/-- The points among `ps` at which `f` differs from its value at the point
before, `now` being the value before the first. -/
def edges (f : Nat → Bool) : Bool → List Nat → List Nat
  | _, [] => []
  | now, p :: ps => if f p = now then edges f now ps else p :: edges f (f p) ps

/-- Passes the switches that are not above `c`: the membership of `c`, and the
switches ahead. -/
def advance (c : Nat) : Bool → List Nat → Bool × List Nat
  | now, [] => (now, [])
  | now, p :: ps => if c < p then (now, p :: ps) else advance c (!now) ps

/-- The points among `ps` at which `op` of two memberships differs from its value
at the point before, `now` being the value before the first. Each of the two
sets is given by its membership so far and its switches ahead. -/
def sweep (op : Bool → Bool → Bool) :
    Bool → Bool × List Nat → Bool × List Nat → List Nat → List Nat
  | _, _, _, [] => []
  | now, a, b, p :: ps =>
    let a := advance p a.1 a.2
    let b := advance p b.1 b.2
    let here := op a.1 b.1
    if here = now then sweep op now a b ps else p :: sweep op here a b ps

/-- The set whose membership is `op` of the memberships in `s` and `t`. It can
only switch at zero or where one of the two does. -/
def combine (op : Bool → Bool → Bool) (s t : CharSet) : CharSet :=
  ⟨sweep op false (false, s.switches) (false, t.switches) (0 :: merge s.switches t.switches)⟩

instance : Union CharSet := ⟨combine (· || ·)⟩

instance : Inter CharSet := ⟨combine (· && ·)⟩

instance : SDiff CharSet := ⟨combine fun a b => a && !b⟩

/-- The points in exactly one of the two sets. -/
def symmDiff (s t : CharSet) : CharSet := combine (fun a b => a != b) s t

/-- The code points up to the last that may stand in text, without the
surrogates. -/
def scalars : CharSet := ⟨[0, 0xD800, 0xE000, 0x110000]⟩

/-- The characters outside the set. -/
def complement (s : CharSet) : CharSet := scalars \ s

/-- The union of closed ranges. -/
def ofRanges (rs : List (Nat × Nat)) : CharSet :=
  rs.foldl (fun s r => s ∪ range r.1 r.2) ∅

/-- The set of the listed code points. -/
def ofPoints (cs : List Nat) : CharSet :=
  ⟨edges (fun c => cs.contains c) false
    (cs.foldr (fun c ps => insertPoint c (insertPoint (c + 1) ps)) [])⟩

/-- The closed ranges of the set, a last open one ending at the last code
point. -/
def toRanges (s : CharSet) : List (Nat × Nat) :=
  pairs s.switches
where
  /-- Reads the switches two by two. -/
  pairs : List Nat → List (Nat × Nat)
    | [] => []
    | [p] => [(p, 0x10FFFF)]
    | p :: q :: ps => (p, q - 1) :: pairs ps

/-- The code points of the set in increasing order. -/
def points (s : CharSet) : List Nat :=
  s.toRanges.flatMap fun r => (List.range (r.2 + 1 - r.1)).map (r.1 + ·)

/-- Whether the set has no member. -/
def isEmpty (s : CharSet) : Bool := s.switches.isEmpty

/-- Whether every member is below 128. -/
def isAscii (s : CharSet) : Bool := s.toRanges.all (·.2 < 128)

/-- Reads a set from the distances between neighbouring switches, written in
hexadecimal and separated by blanks or line ends. -/
def ofDistances (text : String) : CharSet :=
  ⟨go 0 none text.toList⟩
where
  /-- `go at digits rest` continues behind the switch `at` with the number read
  so far. -/
  go (at_ : Nat) : Option Nat → List Char → List Nat
    | none, [] => []
    | some d, [] => [at_ + d]
    | none, c :: cs => if separates c then go at_ none cs else go at_ (some (hexDigit c)) cs
    | some d, c :: cs =>
      if separates c then (at_ + d) :: go (at_ + d) none cs
      else go at_ (some (16 * d + hexDigit c)) cs
  /-- Whether a character stands between numbers. -/
  separates (c : Char) : Bool := c == ' ' || c == '\n'
  /-- The value of a lower-case hexadecimal digit. -/
  hexDigit (c : Char) : Nat := if c.isDigit then c.toNat - 48 else c.toNat - 87

/-! ### Membership in combinations -/

theorem inside_of_lt {c : Nat} {now : Bool} {ps : List Nat} (h : ∀ p ∈ ps, c < p) :
    inside c now ps = now := by
  cases ps with
  | nil => rfl
  | cons p ps => simp [inside, h p (by simp)]

theorem mem_insertThen {p r : Nat} {tail : List Nat → List Nat} {ps : List Nat}
    (h : ∀ qs, r ∈ tail qs ↔ r ∈ ps ∨ r ∈ qs) (qs : List Nat) :
    r ∈ insertThen p tail qs ↔ r ∈ p :: ps ∨ r ∈ qs := by
  induction qs with
  | nil => simp [insertThen, h]
  | cons q qs ih =>
    unfold insertThen
    split
    · simp only [List.mem_cons, h, or_assoc]
    · rw [List.mem_cons, ih, List.mem_cons (a := r) (b := q), or_left_comm]

theorem mem_merge {r : Nat} (ps qs : List Nat) : r ∈ merge ps qs ↔ r ∈ ps ∨ r ∈ qs := by
  induction ps generalizing qs with
  | nil => simp [merge]
  | cons p ps ih => exact mem_insertThen ih qs

theorem pairwise_merge {ps qs : List Nat} (hp : ps.Pairwise (· ≤ ·)) (hq : qs.Pairwise (· ≤ ·)) :
    (merge ps qs).Pairwise (· ≤ ·) := by
  induction ps generalizing qs with
  | nil => exact hq
  | cons p ps ih =>
    have hps := List.pairwise_cons.1 hp
    show (insertThen p (merge ps) qs).Pairwise (· ≤ ·)
    induction qs with
    | nil =>
      refine List.pairwise_cons.2 ⟨fun r hr => ?_, ih hps.2 .nil⟩
      rcases (mem_merge ps []).1 hr with hr | hr
      · exact hps.1 r hr
      · simp at hr
    | cons q qs ihq =>
      have hqs := List.pairwise_cons.1 hq
      unfold insertThen
      split
      · rename_i hle
        refine List.pairwise_cons.2 ⟨fun r hr => ?_, ih hps.2 hq⟩
        rcases (mem_merge ps (q :: qs)).1 hr with hr | hr
        · exact hps.1 r hr
        · rcases List.mem_cons.1 hr with rfl | hr
          · exact hle
          · exact Nat.le_trans hle (hqs.1 r hr)
      · rename_i hlt
        refine List.pairwise_cons.2 ⟨fun r hr => ?_, ihq hqs.2⟩
        rcases (mem_insertThen (mem_merge ps) qs).1 hr with hr | hr
        · rcases List.mem_cons.1 hr with rfl | hr
          · omega
          · exact Nat.le_trans (by omega) (hps.1 r hr)
        · exact hqs.1 r hr

theorem advance_fst (c : Nat) (now : Bool) (ps : List Nat) :
    (advance c now ps).1 = inside c now ps := by
  induction ps generalizing now with
  | nil => rfl
  | cons p ps ih =>
    by_cases h : c < p
    · simp [advance, inside, h]
    · simp [advance, inside, h, ih]

/-- What is ahead of a point decides the membership of the points above it. -/
theorem inside_advance {c d : Nat} (hcd : c ≤ d) (now : Bool) (ps : List Nat) :
    inside d (advance c now ps).1 (advance c now ps).2 = inside d now ps := by
  induction ps generalizing now with
  | nil => rfl
  | cons p ps ih =>
    by_cases h : c < p
    · simp [advance, h]
    · have hd : ¬ d < p := by omega
      simp [advance, inside, h, hd, ih]

theorem edges_congr {f g : Nat → Bool} {ps : List Nat} (h : ∀ p ∈ ps, f p = g p) (now : Bool) :
    edges f now ps = edges g now ps := by
  induction ps generalizing now with
  | nil => rfl
  | cons p ps ih =>
    have hps : ∀ q ∈ ps, f q = g q := fun q hq => h q (List.mem_cons_of_mem _ hq)
    simp only [edges, h p List.mem_cons_self, ih hps]

theorem edges_sublist (f : Nat → Bool) (now : Bool) (ps : List Nat) :
    (edges f now ps).Sublist ps := by
  induction ps generalizing now with
  | nil => exact .slnil
  | cons p ps ih =>
    unfold edges
    split
    · exact (ih now).cons p
    · exact (ih (f p)).cons_cons p

/-- A sweep finds the edges of the combined membership. -/
theorem sweep_eq_edges (op : Bool → Bool → Bool) {ps : List Nat} (h : ps.Pairwise (· ≤ ·))
    (now : Bool) (a b : Bool × List Nat) :
    sweep op now a b ps = edges (fun c => op (inside c a.1 a.2) (inside c b.1 b.2)) now ps := by
  induction ps generalizing now a b with
  | nil => rfl
  | cons p ps ih =>
    have hp := List.pairwise_cons.1 h
    have ahead (now : Bool) :
        sweep op now (advance p a.1 a.2) (advance p b.1 b.2) ps =
          edges (fun c => op (inside c a.1 a.2) (inside c b.1 b.2)) now ps := by
      rw [ih hp.2]
      refine edges_congr (fun q hq => ?_) now
      rw [inside_advance (hp.1 q hq), inside_advance (hp.1 q hq)]
    simp only [sweep, edges, advance_fst, ahead]

/-- Sweeping increasing points recovers a function that is constant between
neighbouring points. -/
theorem inside_edges (f : Nat → Bool) (c : Nat) :
    ∀ (ps : List Nat) (now : Bool), ps.Pairwise (· ≤ ·) →
      (∀ q, (∀ p ∈ ps, p ≤ c → p < q) → q ≤ c → (∀ p ∈ ps, c < p) → f c = now) →
      (∀ p ∈ ps, p ≤ c → (∀ r ∈ ps, r ≤ c → r ≤ p) → f p = f c) →
      inside c now (edges f now ps) = f c := by
  intro ps
  induction ps with
  | nil =>
    intro now _ h0 _
    simpa [edges, inside] using (h0 c (by simp) (Nat.le_refl _) (by simp)).symm
  | cons p ps ih =>
    intro now hs h0 h1
    have hp := List.pairwise_cons.1 hs
    -- in front of the first point nothing is switched; behind it the state is that of the point,
    -- and the other points go on from there
    by_cases hc : c < p
    · have hall : ∀ q ∈ p :: ps, c < q := by
        intro q hq
        rcases List.mem_cons.1 hq with rfl | hq
        · exact hc
        · exact Nat.lt_of_lt_of_le hc (hp.1 q hq)
      have hnow : f c = now :=
        h0 c (fun q hq hqc => absurd (hall q hq) (by omega)) (Nat.le_refl _) hall
      have hedge : ∀ q ∈ edges f now (p :: ps), c < q := fun q hq =>
        hall q ((edges_sublist f now (p :: ps)).subset hq)
      rw [inside_of_lt hedge, hnow]
    · have hpc : p ≤ c := by omega
      have hstep : inside c now (edges f now (p :: ps)) = inside c (f p) (edges f (f p) ps) := by
        have hdef : edges f now (p :: ps) =
            if f p = now then edges f now ps else p :: edges f (f p) ps := rfl
        rw [hdef]
        split
        · rename_i h; rw [h]
        · rename_i h
          have : (!now) = f p := (Bool.eq_not.2 h).symm
          simp [inside, hc, this]
      rw [hstep]
      refine ih (f p) hp.2 ?_ ?_
      · intro q _ _ hgt
        refine (h1 p (by simp) hpc fun r hr hrc => ?_).symm
        rcases List.mem_cons.1 hr with rfl | hr
        · exact Nat.le_refl _
        · exact absurd (hgt r hr) (by omega)
      · intro q hq hqc hmax
        refine h1 q (List.mem_cons_of_mem _ hq) hqc fun r hr hrc => ?_
        rcases List.mem_cons.1 hr with rfl | hr
        · exact hp.1 q hq
        · exact hmax r hr hrc

/-- Membership depends only on the switches that are not above the point. -/
theorem inside_congr {c d : Nat} {ps : List Nat} (hcd : c ≤ d)
    (h : ∀ p ∈ ps, p ≤ d → p ≤ c) (now : Bool) : inside c now ps = inside d now ps := by
  induction ps generalizing now with
  | nil => rfl
  | cons p ps ih =>
    have hp : c < p ↔ d < p := by
      constructor
      · intro hc
        rcases Nat.lt_or_ge d p with hd | hd
        · exact hd
        · exact absurd (h p (by simp) hd) (by omega)
      · omega
    simp only [inside]
    by_cases hc : c < p
    · simp [hc, hp.1 hc]
    · simp only [hc, if_false, mt hp.2 hc]
      exact ih (fun q hq => h q (List.mem_cons_of_mem _ hq)) _

/-- The points of the sweep over two sets are in order. -/
theorem pairwise_zero_merge {ps qs : List Nat} (hp : ps.Pairwise (· ≤ ·))
    (hq : qs.Pairwise (· ≤ ·)) : (0 :: merge ps qs).Pairwise (· ≤ ·) :=
  List.pairwise_cons.2 ⟨fun _ _ => Nat.zero_le _, pairwise_merge hp hq⟩

/-- **Membership in a combination.** For sets with increasing switches. -/
theorem contains_combine (op : Bool → Bool → Bool) {s t : CharSet}
    (hs : s.switches.Pairwise (· ≤ ·)) (ht : t.switches.Pairwise (· ≤ ·)) (c : Nat) :
    (combine op s t).contains c = op (s.contains c) (t.contains c) := by
  have hsort := pairwise_zero_merge hs ht
  unfold combine contains
  rw [sweep_eq_edges op hsort]
  refine inside_edges (fun c => op (inside c false s.switches) (inside c false t.switches))
    c _ false hsort ?_ ?_
  · intro q _ _ hgt
    exact absurd (hgt 0 (by simp)) (by omega)
  · intro p _ hpc hmax
    have hle {a : Nat} (ha : a ∈ s.switches ∨ a ∈ t.switches) (hac : a ≤ c) : a ≤ p :=
      hmax a (List.mem_cons_of_mem _ ((mem_merge _ _).2 ha)) hac
    show op _ _ = op _ _
    rw [inside_congr hpc fun a ha => hle (.inl ha), inside_congr hpc fun a ha => hle (.inr ha)]

/-- The switches of a combination are in order, as are those of the two sets. -/
theorem pairwise_combine (op : Bool → Bool → Bool) {s t : CharSet}
    (hs : s.switches.Pairwise (· ≤ ·)) (ht : t.switches.Pairwise (· ≤ ·)) :
    (combine op s t).switches.Pairwise (· ≤ ·) := by
  have hsort := pairwise_zero_merge hs ht
  unfold combine
  rw [sweep_eq_edges op hsort]
  exact hsort.sublist (edges_sublist _ _ _)

/-! ### Members -/

/-- The members of a set are listed if every range of it has an end. -/
theorem mem_points_of_contains {s : CharSet} {c : Nat} (heven : s.switches.length % 2 = 0)
    (h : s.contains c = true) : c ∈ s.points := by
  have hrange {ps : List Nat} (heven : ps.length % 2 = 0) (h : inside c false ps = true) :
      ∃ r ∈ toRanges.pairs ps, r.1 ≤ c ∧ c ≤ r.2 := by
    induction ps using toRanges.pairs.induct with
    | case1 => cases h
    | case2 => cases heven
    | case3 a b ps ih =>
      rw [inside] at h
      split at h
      · cases h
      · rw [inside] at h
        split at h
        · exact ⟨(a, b - 1), List.mem_cons_self, by omega, by omega⟩
        · rw [List.length_cons, List.length_cons] at heven
          obtain ⟨r, hr, hle⟩ := ih (by omega) h
          exact ⟨r, List.mem_cons_of_mem _ hr, hle⟩
  obtain ⟨r, hr, hle⟩ := hrange heven h
  refine List.mem_flatMap.2 ⟨r, hr, List.mem_map.2 ⟨c - r.1, List.mem_range.2 ?_, ?_⟩⟩ <;> omega

end CharSet

end CancellationPolicy
