import CancellationPolicy.Pattern.Notation
import CancellationPolicy.Proofs.Unicode.Ordered

/-!
# Patterns that are read have sets in order

All sets of a pattern that is read from its notation are in order
(`Pattern.isOrdered_of_parse?`).  The parts of the notation are taken in the order in which they are
built on each other: modes, escapes, brackets and rows.  A reader that goes on from what has been
read so far keeps that in order, and so gives what is in order at the end.
-/

namespace CancellationPolicy.Pattern

/-- Whether all sets of a pattern are in order. -/
def IsOrdered : Pattern → Prop
  | empty | assertion _ => True
  | chars s => s.IsOrdered
  | group _ p | repeated _ _ _ p => p.IsOrdered
  | cat p q | alt p q => p.IsOrdered ∧ q.IsOrdered

variable {m : Mode} {s t : CharSet} {negated : Bool} {cs rest : List Char}

/-! ### Modes -/

namespace Mode

theorem isOrdered_asciiCaseClosed (hs : s.IsOrdered) : (asciiCaseClosed s).IsOrdered :=
  hs.union (CharSet.isOrdered_ofPoints _)

/-- Adding the other case keeps a set in order. -/
theorem isOrdered_fold (m : Mode) (hs : s.IsOrdered) : (m.fold s).IsOrdered := by
  unfold fold
  split
  · split
    · exact hs.caseClosed
    · exact isOrdered_asciiCaseClosed hs
  · exact hs

/-- A class is in order, negated or not. -/
theorem isOrdered_of_class? (hs : s.IsOrdered) (h : m.class? negated s = some t) :
    t.IsOrdered := by
  obtain ⟨-, h⟩ := Option.ite_none_right_eq_some.1 h
  obtain rfl := Option.some.inj h
  split
  · exact hs.complement
  · exact hs

/-- What a literal stands for is in order, in every mode. -/
theorem isOrdered_literal (m : Mode) (c : Char) : (m.literal c).IsOrdered := by
  unfold literal
  split
  · split
    · exact CharSet.isOrdered_ofPoints _
    · exact isOrdered_asciiCaseClosed (CharSet.isOrdered_single _)
  · exact CharSet.isOrdered_single _

theorem isOrdered_digits (m : Mode) : m.digits.IsOrdered := by
  unfold digits
  split
  · exact Unicode.isOrdered_digits
  · exact CharSet.isOrdered_range _ _

theorem isOrdered_blanks (m : Mode) : m.blanks.IsOrdered := by
  unfold blanks
  split
  · exact CancellationPolicy.isOrdered_blanks
  · exact CharSet.isOrdered_ofRanges _

theorem isOrdered_words (m : Mode) : m.words.IsOrdered := by
  unfold words
  split
  · exact Unicode.isOrdered_wordChars
  · exact CharSet.isOrdered_ofRanges _

/-- What the dot stands for is in order. -/
theorem isOrdered_of_dot? (h : m.dot? = some s) : s.IsOrdered := by
  unfold dot? at h
  split at h
  · cases h
  split at h
  · obtain rfl := Option.some.inj h
    exact CharSet.isOrdered_scalars
  · obtain rfl := Option.some.inj h
    exact (CharSet.isOrdered_ofPoints _).complement

end Mode

/-! ### Escapes -/

namespace Atom

/-- Whether the class that an atom may be is in order. -/
def IsOrdered : Atom → Prop
  | members s => s.IsOrdered
  | literal _ _ | condition _ => True

variable {a : Atom} {p : Pattern}

/-- An atom that is a class is in order. -/
theorem isOrdered_of_members (hs : s.IsOrdered)
    (h : ((m.class? negated s).map fun s => (members s, cs)) = some (a, rest)) : a.IsOrdered := by
  obtain ⟨t, ht, hat⟩ := Option.map_eq_some_iff.1 h
  obtain ⟨rfl, -⟩ := Prod.mk.inj hat
  exact Mode.isOrdered_of_class? hs ht

/-- A number in hexadecimal digits is a single character. -/
theorem isOrdered_of_hex? {count : Nat} (h : hex? m count cs = some (a, rest)) : a.IsOrdered := by
  unfold hex? at h
  split at h
  all_goals
    split at h
    · obtain ⟨c, -, hc⟩ := Option.map_eq_some_iff.1 h
      obtain ⟨rfl, -⟩ := Prod.mk.inj hc
      trivial
    · cases h

theorem isOrdered_of_namedProperty? (h : namedProperty? cs = some s) : s.IsOrdered := by
  unfold namedProperty? at h
  split at h
  · exact Unicode.isOrdered_of_propertyValue? h
  · exact Unicode.isOrdered_of_property? h

/-- The class of a property is in order, by whatever name it is asked for. -/
theorem isOrdered_of_property? (h : property? m negated cs = some (a, rest)) : a.IsOrdered := by
  unfold property? at h
  dsimp only at h
  split at h
  · rename_i s behind hfound
    have hs : s.IsOrdered := by
      split at hfound
      · cases hfound
      · split at hfound
        · obtain ⟨t, ht, hts⟩ := Option.map_eq_some_iff.1 hfound
          obtain ⟨rfl, -⟩ := Prod.mk.inj hts
          exact isOrdered_of_namedProperty? ht
        · cases hfound
      · obtain ⟨t, ht, hts⟩ := Option.map_eq_some_iff.1 hfound
        obtain ⟨rfl, -⟩ := Prod.mk.inj hts
        exact Unicode.isOrdered_of_property? ht
    split at h
    · exact isOrdered_of_members (m.isOrdered_fold hs) h
    · cases h
  · cases h

/-- A word boundary is a condition. -/
theorem isOrdered_of_boundary? (h : boundary? m cs = some (a, rest)) : a.IsOrdered := by
  unfold boundary? at h
  dsimp only at h
  split at h
  · split at h
    · cases h
    · split at h
      · split at h
        · obtain ⟨e, -, he⟩ := Option.map_eq_some_iff.1 h
          obtain ⟨rfl, -⟩ := Prod.mk.inj he
          trivial
        · cases h
      · cases h
        trivial
  · cases h
    trivial

/-- The atom behind a backslash is in order. -/
theorem isOrdered_of_escape? (h : escape? m cs = some (a, rest)) : a.IsOrdered := by
  cases cs with
  | nil => cases h
  | cons c cs =>
    unfold escape? at h
    dsimp only at h
    split at h
    case h_1 | h_2 | h_3 => exact isOrdered_of_hex? h
    case h_4 | h_5 => exact isOrdered_of_property? h
    case h_6 | h_7 => exact isOrdered_of_members m.isOrdered_digits h
    case h_8 | h_9 => exact isOrdered_of_members m.isOrdered_blanks h
    case h_10 | h_11 => exact isOrdered_of_members m.isOrdered_words h
    case h_20 => exact isOrdered_of_boundary? h
    case h_24 =>
      split at h
      · cases h
        trivial
      · cases h
    -- all others are single characters and conditions
    all_goals
      cases h
      trivial

/-- The pattern of an atom in order is in order. -/
theorem isOrdered_of_pattern? (ha : a.IsOrdered) (h : a.pattern? m = some p) : p.IsOrdered := by
  cases a with
  | literal c octet =>
    rw [pattern?] at h
    split at h
    · cases h
    · cases h
      exact m.isOrdered_literal c
  | members s =>
    cases h
    exact ha
  | condition a =>
    cases h
    trivial

end Atom

/-! ### Brackets -/

namespace Bracket

variable {l : Listing} {x : Part} {left : Option (Part × Op)}

theorem isOrdered_apply (op : Op) (hs : s.IsOrdered) (ht : t.IsOrdered) :
    (op.apply s t).IsOrdered := by
  cases op with
  | both => exact hs.inter ht
  | less => exact hs.sdiff ht
  | either => exact hs.symmDiff ht

/-- What two lists are joined to is in order. -/
theorem isOrdered_join (hleft : ∀ y ∈ left, y.1.set.IsOrdered) (hl : l.set.IsOrdered) :
    (join m left l).set.IsOrdered := by
  unfold join
  split
  · exact hl
  · rename_i y op
    exact isOrdered_apply op (m.isOrdered_fold (hleft (y, op) rfl)) (m.isOrdered_fold hl)

/-- A choice of sets is in order if each of them is. -/
theorem forall_mem_ite {p : Prop} [Decidable p] {o : Option CharSet} (hs : s.IsOrdered)
    (ho : ∀ t ∈ o, t.IsOrdered) : ∀ t ∈ if p then some s else o, t.IsOrdered := by
  split
  · rintro t ⟨⟩
    exact hs
  · exact ho

/-- The classes of ASCII characters are in order. -/
theorem isOrdered_of_asciiClass? {name : String} : ∀ s ∈ asciiClass? name, s.IsOrdered := by
  unfold asciiClass?
  -- one class after another is made of a range, or of several
  repeat
    refine forall_mem_ite ?_ ?_
    · first
        | exact CharSet.isOrdered_range _ _
        | exact CharSet.isOrdered_ofRanges _
  rintro s ⟨⟩

/-- A class with a name is in order, before it is negated. -/
theorem isOrdered_of_named? (h : named? cs = some (negated, s, rest)) : s.IsOrdered := by
  unfold named? at h
  split at h
  · dsimp only at h
    split at h
    · obtain ⟨t, ht, hts⟩ := Option.map_eq_some_iff.1 h
      obtain ⟨-, rfl, -⟩ := hts
      exact isOrdered_of_asciiClass? _ ht
    · cases h
  · cases h

theorem isOrdered_of_atom? {a : Atom} (h : atom? m cs = some (a, rest)) : a.IsOrdered := by
  unfold atom? at h
  split at h
  · cases h
  · exact Atom.isOrdered_of_escape? h
  · cases h
    trivial

theorem isOrdered_of_single? {a : Atom} (ha : a.IsOrdered) (h : single? m a = some s) :
    s.IsOrdered := by
  unfold single? at h
  split at h
  · cases h
    exact ha
  · obtain ⟨n, -, rfl⟩ := Option.map_eq_some_iff.1 h
    exact CharSet.isOrdered_single n

/-- An item of a list is in order, whether it is an atom or a range. -/
theorem isOrdered_of_item? (h : item? m cs = some (s, rest)) : s.IsOrdered := by
  unfold item? at h
  split at h
  · cases h
  · rename_i a behind ha
    have ha := isOrdered_of_atom? ha
    -- an atom that is no bound is an item by itself, with a hyphen behind it or not
    have hsingle {f : CharSet → CharSet × List Char} (hf : ∀ t, (f t).1 = t)
        (h : (single? m a).map f = some (s, rest)) : s.IsOrdered := by
      obtain ⟨t, ht, hts⟩ := Option.map_eq_some_iff.1 h
      have hfirst := hf t
      rw [hts] at hfirst
      obtain rfl : s = t := hfirst
      exact isOrdered_of_single? ha ht
    split at h
    · cases h
    · split at h
      · exact hsingle (fun _ => rfl) h
      · split at h
        · cases h
        · split at h
          · split at h
            · cases h
              exact CharSet.isOrdered_range _ _
            · cases h
          · cases h
    · exact hsingle (fun _ => rfl) h

theorem isOrdered_hyphens (fuel : Nat) (hl : l.set.IsOrdered) :
    (hyphens m fuel l cs).1.set.IsOrdered := by
  induction fuel generalizing l cs with
  | zero => exact hl
  | succ fuel ih =>
    unfold hyphens
    split
    · exact ih (hl.union (CharSet.isOrdered_single _))
    · exact hl

/-- What stands at the front of a class is in order. -/
theorem isOrdered_front (m : Mode) (cs : List Char) : (front m cs).2.1.set.IsOrdered := by
  unfold front
  dsimp only
  split
  · exact (isOrdered_hyphens _ CharSet.isOrdered_empty).union (CharSet.isOrdered_single _)
  · exact isOrdered_hyphens _ CharSet.isOrdered_empty

/-- A class is in order if what has been read of it is. -/
theorem isOrdered_of_body? {fuel : Nat} (hleft : ∀ y ∈ left, y.1.set.IsOrdered)
    (hl : l.set.IsOrdered) (h : body? m fuel negated left l cs = some (x, rest)) :
    x.set.IsOrdered := by
  induction fuel generalizing negated left l cs x rest with
  | zero => cases h
  | succ fuel ih =>
    have hjoin := isOrdered_join (m := m) hleft hl
    -- behind an operation the list starts anew, with what has been read on its left
    have hop (op : Op) : ∀ y ∈ some (join m left l, op), y.1.set.IsOrdered := by
      rintro y ⟨⟩
      exact hjoin
    unfold body? at h
    split at h
    · cases h
    · obtain ⟨s, hs, hx⟩ := Option.map_eq_some_iff.1 h
      obtain ⟨rfl, -⟩ := Prod.mk.inj hx
      exact Mode.isOrdered_of_class? (m.isOrdered_fold hjoin) hs
    · exact ih (hop .both) CharSet.isOrdered_empty h
    · exact ih (hop .less) CharSet.isOrdered_empty h
    · exact ih (hop .either) CharSet.isOrdered_empty h
    · split at h
      · rename_i hnamed
        split at h
        · rename_i hclass
          have hs := isOrdered_of_named? hnamed
          exact ih hleft (hl.union (Mode.isOrdered_of_class? (m.isOrdered_fold hs) hclass)) h
        · cases h
      · dsimp only at h
        split at h
        · rename_i hinner
          have hx := ih (fun _ hy => absurd hy (Option.not_mem_none _)) (isOrdered_front m _) hinner
          exact ih hleft (hl.union hx) h
        · cases h
    · split at h
      · rename_i hitem
        exact ih hleft (hl.union (isOrdered_of_item? hitem)) h
      · cases h

end Bracket

/-- A bracketed class is in order. -/
theorem isOrdered_of_bracket? {x : Bracket.Part} (h : bracket? m cs = some (x, rest)) :
    x.set.IsOrdered :=
  Bracket.isOrdered_of_body? (fun _ hy => absurd hy (Option.not_mem_none _))
    (Bracket.isOrdered_front m cs) h

/-! ### Rows and repetitions -/

/-- A row of patterns in order is in order. -/
theorem isOrdered_row {ps : List Pattern} (h : ∀ p ∈ ps, p.IsOrdered) : (row ps).IsOrdered := by
  cases ps with
  | nil => trivial
  | cons p ps =>
    obtain ⟨hp, hps⟩ := List.forall_mem_cons.1 h
    exact List.foldlRecOn ps cat hp fun _ hrow q hq => ⟨hrow, hps q hq⟩

theorem isOrdered_oneOf {ps : List Pattern} (h : ∀ p ∈ ps, p.IsOrdered) :
    (oneOf ps).IsOrdered := by
  cases ps with
  | nil => exact CharSet.isOrdered_empty
  | cons p ps =>
    obtain ⟨hp, hps⟩ := List.forall_mem_cons.1 h
    exact List.foldlRecOn ps alt hp fun _ hfork q hq => ⟨hfork, hps q hq⟩

/-- Repeating keeps a pattern in order. -/
theorem isOrdered_times {p : Pattern} (hp : p.IsOrdered) (least : Nat) (most : Option Nat)
    (greedy : Bool) : (times least most greedy p).IsOrdered := by
  unfold times
  dsimp only
  split
  · trivial
  · exact hp
  · exact hp

namespace Notation

variable {x : Part} {rows : List Part} {items : List Item}

theorem isOrdered_rowOf (h : ∀ i ∈ items, ∀ x ∈ i, x.pattern.IsOrdered) :
    (Notation.row items).pattern.IsOrdered := by
  refine isOrdered_row fun p hp => ?_
  obtain ⟨x, hx, rfl⟩ := List.mem_map.1 hp
  obtain ⟨i, hi, hix⟩ := List.mem_filterMap.1 hx
  exact h i (List.mem_reverse.1 hi) x hix

theorem isOrdered_alternative {p : Pattern} (hp : p.IsOrdered) : (alternative p).IsOrdered := by
  unfold alternative
  split
  · exact ⟨trivial, hp⟩
  · exact hp

theorem isOrdered_alternatives (h : ∀ x ∈ rows, x.pattern.IsOrdered) :
    (alternatives rows).pattern.IsOrdered := by
  unfold alternatives
  dsimp only
  split
  · exact h _ (List.mem_singleton_self _)
  · refine isOrdered_oneOf fun p hp => ?_
    obtain ⟨x, hx, rfl⟩ := List.mem_map.1 hp
    exact isOrdered_alternative (h x (List.mem_reverse.1 hx))

/-- Repeating the last item keeps items in order. -/
theorem isOrdered_of_repeatLast? {least : Nat} {most : Option Nat} {mark : Bool}
    {repeated : List Item} (h : ∀ i ∈ items, ∀ x ∈ i, x.pattern.IsOrdered)
    (hrepeated : repeatLast? m least most mark items = some repeated) :
    ∀ i ∈ repeated, ∀ x ∈ i, x.pattern.IsOrdered := by
  unfold repeatLast? at hrepeated
  split at hrepeated
  · obtain rfl := Option.some.inj hrepeated
    obtain ⟨hlast, hitems⟩ := List.forall_mem_cons.1 h
    refine List.forall_mem_cons.2 ⟨?_, hitems⟩
    rintro x ⟨⟩
    exact isOrdered_times (hlast _ rfl) _ _ _
  · cases hrepeated

/-- A part that is neither a group nor a repetition is in order. -/
theorem isOrdered_of_simple? (h : simple? m cs = some (x, rest)) : x.pattern.IsOrdered := by
  unfold simple? at h
  split at h
  · cases h
  · obtain ⟨⟨y, behind⟩, hy, hyx⟩ := Option.map_eq_some_iff.1 h
    obtain ⟨rfl, -⟩ := Prod.mk.inj hyx
    exact isOrdered_of_bracket? hy
  · split at h
    · rename_i hescape
      obtain ⟨p, hp, hpx⟩ := Option.map_eq_some_iff.1 h
      obtain ⟨rfl, -⟩ := Prod.mk.inj hpx
      exact Atom.isOrdered_of_pattern? (Atom.isOrdered_of_escape? hescape) hp
    · cases h
  · obtain ⟨s, hs, hsx⟩ := Option.map_eq_some_iff.1 h
    obtain ⟨rfl, -⟩ := Prod.mk.inj hsx
    exact Mode.isOrdered_of_dot? hs
  · cases h
    trivial
  · cases h
    trivial
  · cases h
    exact m.isOrdered_literal _

/-- Alternatives are in order if what has been read of them is. -/
theorem isOrdered_of_alternatives? {fuel : Nat} {names others : List String}
    (hrows : ∀ x ∈ rows, x.pattern.IsOrdered)
    (hitems : ∀ i ∈ items, ∀ x ∈ i, x.pattern.IsOrdered)
    (h : alternatives? fuel m names rows items cs = some (x, others, rest)) :
    x.pattern.IsOrdered := by
  induction fuel generalizing m names rows items cs x others rest with
  | zero => cases h
  | succ fuel ih =>
    have hnone {α : Type} {P : α → Prop} : ∀ x ∈ ([] : List α), P x :=
      fun _ hx => absurd hx List.not_mem_nil
    have hrow : ∀ x ∈ Notation.row items :: rows, x.pattern.IsOrdered :=
      List.forall_mem_cons.2 ⟨isOrdered_rowOf hitems, hrows⟩
    have hitem {p : Pattern} (hp : p.IsOrdered) (depth : Nat) :
        ∀ i ∈ some (⟨p, depth⟩ : Part) :: items, ∀ x ∈ i, x.pattern.IsOrdered := by
      refine List.forall_mem_cons.2 ⟨?_, hitems⟩
      rintro x ⟨⟩
      exact hp
    unfold alternatives? at h
    split at h
    · cases h
      exact isOrdered_alternatives hrow
    · cases h
      exact isOrdered_alternatives hrow
    · exact ih hrow hnone h
    · split at h
      · cases h
      -- a change of mode adds no pattern
      · refine ih hrows (List.forall_mem_cons.2 ⟨?_, hitems⟩) h
        rintro x ⟨⟩
      · split at h
        · rename_i hinner
          exact ih hrows (hitem (ih hnone hnone hinner) _) h
        · cases h
      · split at h
        · cases h
        · split at h
          · rename_i hinner
            exact ih hrows (hitem (p := .group _ _) (ih hnone hnone hinner) _) h
          · cases h
    · split at h
      · split at h
        · cases h
        · split at h
          · rename_i hlast
            exact ih hrows (isOrdered_of_repeatLast? hitems hlast) h
          · cases h
      · split at h
        · rename_i hsimple
          exact ih hrows (hitem (isOrdered_of_simple? hsimple) _) h
        · cases h

end Notation

/-- All sets of a pattern that is read are in order. -/
theorem isOrdered_of_parse? {text : String} {p : Pattern} (h : parse? m text = some p) :
    p.IsOrdered := by
  unfold parse? at h
  dsimp only at h
  split at h
  · rename_i hread
    split at h
    · obtain rfl := Option.some.inj h
      exact Notation.isOrdered_of_alternatives? (fun _ hx => absurd hx List.not_mem_nil)
        (fun _ hi => absurd hi List.not_mem_nil) hread
    · cases h
  · cases h

end CancellationPolicy.Pattern
