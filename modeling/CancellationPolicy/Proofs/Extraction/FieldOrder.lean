import CancellationPolicy.Proofs.Extraction.Replay
import CancellationPolicy.Proofs.Record.Commute
import CancellationPolicy.Proofs.Rule.Order

/-!
# The order of independent fields

A rule whose fields have independent paths may list them in any order (`Rule.IsShuffle`): the rules
have the same outcome as before (`applyAll_shuffled`).

The values of an occurrence are then written in another order, into a record that other rules and
earlier occurrences have filled.  It does not matter which of these writes are refused, since writes
at independent paths may change places whatever becomes of them (`Record.writeAll_perm`).  So the
record is the same behind every occurrence (`writeAll_flatMap_values`), and spans and hits do not
depend on the fields.
-/

namespace CancellationPolicy.Rule

variable {r s : Rule} {fields others : List Field}

/-! ### One rule -/

/-- Whether the paths of fields are pairwise different and none is above another. -/
def AreIndependent (fields : List Field) : Prop :=
  fields.Pairwise fun f g => Path.Independent f.path g.path

instance (fields : List Field) : Decidable (AreIndependent fields) :=
  inferInstanceAs (Decidable (List.Pairwise _ _))

/-- Whether a rule is another one with its fields in any order, if these are independent. -/
inductive IsShuffle : Rule → Rule → Prop where
  /-- The fields keep their order. -/
  | refl (r : Rule) : IsShuffle r r
  /-- The fields are independent and may be in another order. -/
  | fields {r : Rule} {fields others : List Field} (hfields : r.fields = some fields)
      (hindependent : AreIndependent fields) (hperm : fields.Perm others) :
      IsShuffle r { r with fields := some others }

theorem values_pairwise (h : AreIndependent fields) (x : Occurrence) :
    (values fields x).Pairwise fun e e' => Path.Independent e.1 e'.1 := by
  refine List.Pairwise.filterMap _ (fun f g hfg e he e' he' => ?_) h
  obtain ⟨v, -, rfl⟩ := Option.map_eq_some_iff.1 he
  obtain ⟨w, -, rfl⟩ := Option.map_eq_some_iff.1 he'
  exact hfg

/-- Occurrences fill independent fields alike in any order, whatever the record holds. -/
theorem writeAll_flatMap_values (h : AreIndependent fields) (hperm : fields.Perm others)
    (xs : List Occurrence) (record : Record) :
    record.writeAll (xs.flatMap (values fields)) = record.writeAll (xs.flatMap (values others)) := by
  induction xs generalizing record with
  | nil => rfl
  | cons x xs ih =>
    have hx : record.writeAll (values fields x) = record.writeAll (values others x) :=
      Record.writeAll_perm (hperm.filterMap _) (values_pairwise h x) record
    rw [List.flatMap_cons, List.flatMap_cons, Record.writeAll_append, Record.writeAll_append, hx, ih]

/-- A shuffled rule does to an outcome what the rule does. -/
theorem IsShuffle.applyTo_eq (h : IsShuffle r s) (text : String) (o : Outcome) :
    applyTo text o s = applyTo text o r := by
  cases h with
  | refl => rfl
  | fields hfields hindependent hperm =>
    have hrecord := writeAll_flatMap_values hindependent hperm (r.pattern.occurrences text) o.record
    rw [applyTo_eq_add, applyTo_eq_add]
    simp only [evidence, hits, hfields, Outcome.add, hrecord]

/-! ### All rules -/

theorem IsShuffle.priority_eq (h : IsShuffle r s) : r.priority = s.priority := by
  cases h <;> rfl

/-- Shuffled rules are evaluated in the same order. -/
theorem forall₂_inOrder {rules shuffled : List Rule} (h : List.Forall₂ IsShuffle rules shuffled) :
    List.Forall₂ IsShuffle (inOrder rules) (inOrder shuffled) := by
  refine forall₂_stableSort (fun r s r' s' hr hs => ?_) h
  rw [hr.priority_eq, hs.priority_eq]

/-- Putting the fields of rules into another order changes nothing in the outcome, if the paths of
the fields of each of these rules are pairwise different and none is above another. -/
theorem applyAll_shuffled (rules shuffled : List Rule) (text : String)
    (h : List.Forall₂ IsShuffle rules shuffled) :
    applyAll shuffled text = applyAll rules text := by
  -- both lists are passed through at once, from any outcome so far
  have hfold : ∀ rules shuffled : List Rule, List.Forall₂ IsShuffle rules shuffled →
      ∀ o, shuffled.foldl (applyTo text) o = rules.foldl (applyTo text) o := by
    intro rules shuffled h
    induction h with
    | nil => exact fun _ => rfl
    | cons hr _ ih =>
      intro o
      rw [List.foldl_cons, List.foldl_cons, hr.applyTo_eq, ih]
  exact hfold _ _ (forall₂_inOrder h) .empty

/-- A rule that fills two fields. -/
def twoFeeRule (fields : List Field) : Rule :=
  { id := "fee", priority := 1, source := "FEE", pattern := .text "FEE".toList
    fields := some fields }

/-- A rule that is applied first, and fills a field that lies below one of another rule. -/
def currencyRule : Rule :=
  { id := "currency", priority := 2, source := "FEE", pattern := .text "FEE".toList
    fields := some [⟨"fee.amount.currency", ⟨["EUR"]⟩⟩] }

/-- One of the fields that change places cannot be filled, and the other can. -/
theorem applyAll_shuffled_twoFeeRule :
    let amount : Field := ⟨"fee.amount", ⟨["50"]⟩⟩
    let nights : Field := ⟨"fee.nights", ⟨["TWO"]⟩⟩
    let rules := [twoFeeRule [amount, nights], currencyRule]
    let shuffled := [twoFeeRule [nights, amount], currencyRule]
    List.Forall₂ IsShuffle rules shuffled ∧ applyAll shuffled "FEE" = applyAll rules "FEE" ∧
      (applyAll shuffled "FEE").record.leaves =
        [("fee.amount.currency", .text "EUR"), ("fee.nights", .text "TWO")] := by
  intro amount nights rules shuffled
  have hindependent : AreIndependent [amount, nights] := by decide
  have hshuffle : List.Forall₂ IsShuffle rules shuffled :=
    .cons (.fields rfl hindependent (.swap nights amount [])) (.cons (.refl currencyRule) .nil)
  have heq := applyAll_shuffled rules shuffled "FEE" hshuffle
  refine ⟨hshuffle, heq, ?_⟩
  rw [heq]
  decide +kernel

end CancellationPolicy.Rule
