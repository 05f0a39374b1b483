import CancellationPolicy.Proofs.Record.Outcome
import Mathlib.Data.List.Induction

/-!
# Records that are written again

The leaves of a record, written into a new one in any order, are all taken, and the new record is
the same as the old one, with its flags (`writeAll_leaves`).

A leaf is taken as long as the new record holds nothing but other leaves of the old one
(`outcome_writeAll_eq_written`), and it is stored as it is, since the value of a leaf is coerced
already (`coerce_of_mem`).  The flags need no argument of their own: in a well-formed record the
leaves determine them (`WellFormed.eq_of_leaves_eq`).
-/

namespace CancellationPolicy.Record

variable {r s : Record} {p : String} {v : Value} {front back : List (String × Value)}

/-- To coerce the value of a leaf once more changes nothing. -/
theorem coerce_of_mem (hr : r.WellFormed) (h : (p, v) ∈ r.leaves) : coerce p v = v := by
  cases v with
  | number n => rfl
  | text t => exact coerce_eq_text.2 ⟨rfl, fun hp => hr.garbled p t h (Path.isCount_iff.1 hp)⟩

/-- A leaf of a record can be written wherever there are only other leaves of it. -/
theorem outcome_eq_written_of_mem (hr : r.WellFormed) (h : (p, v) ∈ r.leaves)
    (hs : s.leaves ⊆ r.leaves) (hp : p ∉ Keyed.names s.leaves) : s.outcome p v = .written := by
  refine outcome_eq_written_iff.2 ⟨Path.isValid_iff.2 (hr.valid _ h), hr.filled _ h, hp, ?_⟩
  intro q hq
  obtain ⟨l, hl, rfl⟩ := List.mem_map.1 hq
  exact ⟨hr.apart _ (hs hl) _ h, hr.apart _ h _ (hs hl)⟩

/-- A leaf can be written behind other leaves that the new record holds. -/
theorem outcome_writeAll_eq_written (hr : r.WellFormed)
    (hleaves : front ++ (p, v) :: back ⊆ r.leaves)
    (hnodup : (Keyed.names (front ++ (p, v) :: back)).Nodup)
    (hmem : ∀ l, l ∈ (new.writeAll front).leaves ↔ l ∈ front) :
    (new.writeAll front).outcome p v = .written := by
  refine outcome_eq_written_of_mem hr (hleaves (List.mem_append_right _ List.mem_cons_self))
    (fun l hl => hleaves (List.mem_append_left _ ((hmem l).1 hl))) fun hp => ?_
  obtain ⟨l, hl, rfl⟩ := List.mem_map.1 hp
  rw [Keyed.names, List.map_append, List.nodup_append] at hnodup
  exact hnodup.2.2 l.1 (List.mem_map_of_mem ((hmem l).1 hl)) l.1 List.mem_cons_self rfl

/-- Different leaves of a record, written into a new one, are what it holds. -/
theorem mem_leaves_writeAll (hr : r.WellFormed) (hleaves : front ⊆ r.leaves)
    (hnodup : (Keyed.names front).Nodup) (l : String × Value) :
    l ∈ (new.writeAll front).leaves ↔ l ∈ front := by
  induction front using List.reverseRecOn generalizing l with
  | nil => exact Iff.rfl
  | append_singleton front leaf ih =>
    obtain ⟨p, v⟩ := leaf
    have hfront : (Keyed.names front).Nodup := by
      rw [Keyed.names, List.map_append, List.nodup_append] at hnodup
      exact hnodup.1
    have hmem := ih (fun l hl => hleaves (List.mem_append_left _ hl)) hfront
    -- so far the leaves in front have been written, and no other leaf is on the way of this one
    have hwritten := outcome_writeAll_eq_written hr hleaves hnodup hmem
    have hp := (outcome_eq_written_iff.1 hwritten).2.2.1
    have hleaf : (p, v) ∈ r.leaves := hleaves (List.mem_append_right _ List.mem_cons_self)
    have hstep : new.writeAll (front ++ [(p, v)]) = (new.writeAll front).store p v := by
      rw [writeAll_append]
      exact write_of_written hwritten
    rw [hstep, mem_leaves_store hp, coerce_of_mem hr hleaf, hmem, List.mem_append,
      List.mem_singleton, or_comm]

/-- The flags of a well-formed record are determined by its leaves. -/
theorem WellFormed.eq_of_leaves_eq (hr : r.WellFormed) (hs : s.WellFormed)
    (h : r.leaves = s.leaves) : r = s := by
  -- flags carry no value, so they are compared by their paths
  have hmem (t : Record) (p : String) : (p, ()) ∈ t.flags ↔ p ∈ t.malformed := by
    constructor
    · exact Keyed.mem_names_of_mem
    · intro hp
      obtain ⟨⟨q, _⟩, hq, rfl⟩ := List.mem_map.1 hp
      exact hq
  have hflags : r.flags = s.flags := by
    refine Keyed.eq_of_mem_iff hr.sorted_flags hs.sorted_flags fun ⟨p, _⟩ => ?_
    rw [hmem, hmem, hr.mem_malformed_iff, hs.mem_malformed_iff, h]
  cases r
  cases s
  subst h hflags
  rfl

/-- The leaves of any record that writes have built, in any order: written into a new record, every
one of them is taken, and in the end the new record has the same leaves and the same flags. -/
theorem writeAll_leaves (fields order : List (String × Value))
    (h : order.Perm (new.writeAll fields).leaves) :
    (∀ front p v back, order = front ++ (p, v) :: back →
      (new.writeAll front).outcome p v = .written) ∧
    new.writeAll order = new.writeAll fields := by
  have hr := wellFormed_writeAll fields
  have hnodup : (Keyed.names order).Nodup :=
    (h.map Prod.fst).nodup_iff.2 (Keyed.nodup_names hr.sorted)
  refine ⟨fun front p v back horder => ?_, ?_⟩
  · have hleaves : front ++ (p, v) :: back ⊆ (new.writeAll fields).leaves := horder ▸ h.subset
    -- what is in front of a leaf is written first, and its paths are distinct
    have hfront : front.Sublist order := horder ▸ List.sublist_append_left _ _
    refine outcome_writeAll_eq_written hr hleaves (horder ▸ hnodup) ?_
    exact mem_leaves_writeAll hr (List.Subset.trans hfront.subset h.subset)
      ((hfront.map Prod.fst).nodup hnodup)
  · have hleaves : (new.writeAll order).leaves = (new.writeAll fields).leaves := by
      refine Keyed.eq_of_mem_iff (wellFormed_writeAll order).sorted hr.sorted fun l => ?_
      rw [mem_leaves_writeAll hr h.subset hnodup, h.mem_iff]
    exact (wellFormed_writeAll order).eq_of_leaves_eq hr hleaves

/-- A number that was written with a percent sign and a text at a count field, behind a leaf that
follows them. -/
theorem writeAll_leaves_reversed :
    let fields := [("fee.percent", .text "50%"), ("fee.nights", .text "TWO"), ("fee", .text "EUR"),
      ("fee.type", .text "percentage")]
    let order := [("fee.type", .text "percentage"), ("fee.percent", .number (.ofNat 50)),
      ("fee.nights", .text "TWO")]
    order.Perm (new.writeAll fields).leaves ∧
      (new.writeAll [("fee.type", .text "percentage")]).outcome "fee.percent" (.number (.ofNat 50)) =
        .written ∧
      new.writeAll order = new.writeAll fields ∧ (new.writeAll order).malformed = ["fee.nights"] := by
  intro fields order
  have horder : (new.writeAll fields).leaves = order.reverse := by decide +kernel
  have hperm : order.Perm (new.writeAll fields).leaves := horder ▸ (List.reverse_perm order).symm
  obtain ⟨hwritten, heq⟩ := writeAll_leaves fields order hperm
  refine ⟨hperm, hwritten [_] _ _ [_] rfl, heq, ?_⟩
  rw [heq]
  decide +kernel

end CancellationPolicy.Record
