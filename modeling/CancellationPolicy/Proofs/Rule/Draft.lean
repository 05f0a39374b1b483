import CancellationPolicy.Proofs.Rule.Flattening
import CancellationPolicy.Proofs.Rule.Order
import CancellationPolicy.Proofs.Text.Trim
import CancellationPolicy.Proofs.Traversal

/-!
# Sets of rules are made of whole drafts

A draft of a set of rules makes a set if and only if each rule has an id that is not blank and a
pattern that can be read, and no id is repeated.  The set then has a rule for each draft, by
descending priority.  Otherwise the error is that of the first rule with a fault of its own, and an
id is only said to be repeated if there is no such rule (`RuleSet.Draft.build_spec`).

One rule is made or refused as its own draft says (`Rule.Draft.build_eq_ok_iff`,
`Rule.Draft.build_eq_error_iff`); the first fault among several drafts is a matter of the order in
which steps are made (`mapM_eq_error_iff`).
-/

namespace CancellationPolicy

/-! ### One rule -/

namespace Rule

variable {d : Draft} {r : Rule} {e : Error}

/-- Whether the id of a draft has no character but blanks. -/
def Draft.IsBlank (d : Draft) : Prop := ∀ c ∈ d.id.toList, isBlank c = true

/-- Whether the draft of a rule has no fault of its own. -/
structure Draft.IsSound (d : Draft) : Prop where
  /-- The id is not blank. -/
  id : ¬d.IsBlank
  /-- The pattern can be read. -/
  pattern : (pattern? d.source).isSome = true

/-- The faults of the draft of a rule; that of the pattern counts if the id has none. -/
inductive Draft.Fails (d : Draft) : Error → Prop where
  /-- The id is blank. -/
  | emptyId (h : d.IsBlank) : Fails d .emptyId
  /-- The pattern cannot be read. -/
  | invalidPattern (hid : ¬d.IsBlank) (h : pattern? d.source = none) :
    Fails d (.invalidPattern d.id)

/-- Whether the map of a draft fills fields: there is one, it is an object, and no list is reached
in it through objects. -/
def Draft.HasFields (d : Draft) : Prop :=
  ∃ ms, d.map = some (.object ms) ∧ ∀ names items, (names, .array items) ∉ (Json.object ms).entries

/-- Whether a rule is what a draft says. -/
structure Draft.Makes (d : Draft) (r : Rule) : Prop where
  /-- The id is that of the draft. -/
  id : r.id = d.id
  /-- The priority is that of the draft. -/
  priority : r.priority = d.priority
  /-- The pattern is written as in the draft. -/
  source : r.source = d.source
  /-- The pattern is what the draft's is read as. -/
  pattern : pattern? d.source = some r.pattern
  /-- The fields are those of the map of the draft. -/
  fields : r.fields = d.map.bind fieldsOf?
  /-- The rule is disabled exactly if the map does not fill fields. -/
  isEnabled : r.isEnabled = false ↔ ¬d.HasFields

/-- A draft has fields exactly if its map can be read as fields. -/
theorem Draft.hasFields_iff : d.HasFields ↔ (d.map.bind fieldsOf?).isSome = true := by
  unfold HasFields
  cases hmap : d.map with
  | none => simp
  | some v =>
    rw [Option.bind_some, ← Option.ne_none_iff_isSome, ne_eq, fieldsOf?_eq_none_iff, not_or]
    push Not
    constructor
    · rintro ⟨ms, hms, harray⟩
      obtain rfl := Option.some.inj hms
      exact ⟨⟨ms, rfl⟩, harray⟩
    · rintro ⟨⟨ms, rfl⟩, harray⟩
      exact ⟨ms, rfl, harray⟩

theorem isEmpty_trim_iff : (Text.trim d.id.toList).isEmpty = true ↔ d.IsBlank := by
  rw [List.isEmpty_iff, Text.trim_eq_nil_iff]
  rfl

/-- What a draft makes of its own. -/
theorem Draft.build_cases (d : Draft) :
    d.IsBlank ∧ d.build = .error .emptyId ∨
      ¬d.IsBlank ∧ pattern? d.source = none ∧ d.build = .error (.invalidPattern d.id) ∨
      ¬d.IsBlank ∧ ∃ pattern, pattern? d.source = some pattern ∧
        d.build = .ok ⟨d.id, d.priority, d.source, pattern, d.map.bind fieldsOf?⟩ := by
  unfold build Rule.build
  by_cases hid : d.IsBlank
  · left
    exact ⟨hid, if_pos (isEmpty_trim_iff.2 hid)⟩
  · right
    rw [if_neg (mt isEmpty_trim_iff.1 hid)]
    cases pattern? d.source with
    | none => exact .inl ⟨hid, rfl, rfl⟩
    | some pattern => exact .inr ⟨hid, pattern, rfl, rfl⟩

/-- A draft makes a rule if it has no fault, and the rule is what the draft says. -/
theorem Draft.build_eq_ok_iff : d.build = .ok r ↔ d.IsSound ∧ d.Makes r := by
  rcases d.build_cases with ⟨hid, h⟩ | ⟨hid, hpattern, h⟩ | ⟨hid, pattern, hpattern, h⟩
  · rw [h]
    exact iff_of_false (by simp) fun hr => hr.1.id hid
  · rw [h]
    exact iff_of_false (by simp) fun hr => by simpa [hpattern] using hr.1.pattern
  -- an id and a pattern are all that a draft needs
  · rw [h, Except.ok.injEq]
    constructor
    · rintro rfl
      refine ⟨⟨hid, by rw [hpattern]; rfl⟩, rfl, rfl, rfl, hpattern, rfl, ?_⟩
      rw [hasFields_iff, isEnabled, Bool.not_eq_true]
    · rintro ⟨-, hr⟩
      obtain ⟨id, priority, source, pattern', fields⟩ := r
      obtain rfl : pattern = pattern' := Option.some.inj (hpattern.symm.trans hr.pattern)
      obtain rfl := hr.id
      obtain rfl := hr.priority
      obtain rfl := hr.source
      obtain rfl := hr.fields
      rfl

theorem Draft.build_eq_error_iff : d.build = .error e ↔ d.Fails e := by
  rcases d.build_cases with ⟨hid, h⟩ | ⟨hid, hpattern, h⟩ | ⟨hid, pattern, hpattern, h⟩
  · rw [h, Except.error.injEq]
    constructor
    · rintro rfl
      exact .emptyId hid
    · intro hfails
      cases hfails with
      | emptyId => rfl
      | invalidPattern hid' => exact absurd hid hid'
  · rw [h, Except.error.injEq]
    constructor
    · rintro rfl
      exact .invalidPattern hid hpattern
    · intro hfails
      cases hfails with
      | emptyId hid' => exact absurd hid' hid
      | invalidPattern => rfl
  · rw [h]
    refine iff_of_false (by simp) fun hfails => ?_
    cases hfails with
    | emptyId hid' => exact hid hid'
    | invalidPattern _ hnone => simp [hnone] at hpattern

/-- A draft can be built exactly if it is sound. -/
theorem Draft.exists_build_iff : (∃ r, d.build = .ok r) ↔ d.IsSound := by
  rcases d.build_cases with ⟨hid, h⟩ | ⟨hid, hpattern, h⟩ | ⟨hid, pattern, hpattern, h⟩
  · rw [h]
    exact iff_of_false (by simp) fun hsound => hsound.id hid
  · rw [h]
    exact iff_of_false (by simp) fun hsound => by simpa [hpattern] using hsound.pattern
  · rw [h]
    exact iff_of_true ⟨_, rfl⟩ ⟨hid, by rw [hpattern]; rfl⟩

end Rule

namespace RuleSet

/-! ### Repeated ids -/

variable {rules : List Rule} {seen : List String} {id : String}

/-- Whether an id is the first in a list that occurs a second time. -/
def IsFirstRepeat (ids : List String) (id : String) : Prop :=
  ∃ before after, ids = before ++ id :: after ∧ before.Nodup ∧ id ∈ before

theorem duplicate?_cons (r : Rule) (rules : List Rule) (seen : List String) :
    duplicate? seen (r :: rules) =
      if r.id ∈ seen then some r.id else duplicate? (r.id :: seen) rules := by
  rw [duplicate?]
  simp only [List.contains_iff_mem]

theorem duplicate?_eq_none_iff : duplicate? seen rules = none ↔
    (rules.map Rule.id).Nodup ∧ ∀ r ∈ rules, r.id ∉ seen := by
  induction rules generalizing seen with
  | nil => simp [duplicate?]
  | cons r rules ih =>
    rw [duplicate?_cons, List.map_cons, List.nodup_cons, List.forall_mem_cons]
    split
    · rename_i hseen
      exact iff_of_false (by simp) fun h => h.2.1 hseen
    · rename_i hseen
      rw [ih]
      simp only [List.mem_cons, not_or, List.mem_map, not_exists, not_and]
      constructor
      · rintro ⟨hnodup, hfresh⟩
        exact ⟨⟨fun s hs => (hfresh s hs).1, hnodup⟩, hseen, fun s hs => (hfresh s hs).2⟩
      · rintro ⟨⟨hother, hnodup⟩, -, hfresh⟩
        exact ⟨hnodup, fun s hs => ⟨hother s hs, hfresh s hs⟩⟩

/-- The id that is reported is the first one that was seen before, in the list or in front of it. -/
theorem duplicate?_eq_some_iff_of_seen : duplicate? seen rules = some id ↔
    ∃ before after, rules.map Rule.id = before ++ id :: after ∧
      (before.Nodup ∧ ∀ i ∈ before, i ∉ seen) ∧ (id ∈ seen ∨ id ∈ before) := by
  induction rules generalizing seen with
  | nil => simp [duplicate?]
  | cons r rules ih =>
    rw [duplicate?_cons, List.map_cons]
    split
    · rename_i hseen
      rw [Option.some.injEq]
      constructor
      · rintro rfl
        exact ⟨[], rules.map Rule.id, rfl, ⟨.nil, by simp⟩, .inl hseen⟩
      · rintro ⟨before, after, heq, ⟨-, hfresh⟩, -⟩
        cases before with
        | nil => exact (List.cons.inj heq).1
        | cons i before =>
          obtain ⟨rfl, -⟩ := List.cons.inj heq
          exact absurd hseen (hfresh _ List.mem_cons_self)
    · rename_i hseen
      rw [ih]
      constructor
      · rintro ⟨before, after, heq, ⟨hnodup, hfresh⟩, hid⟩
        have hnew : r.id ∉ before := by
          intro hr
          exact hfresh _ hr List.mem_cons_self
        have hother : ∀ i ∈ before, i ∉ seen := by
          intro i hi hmem
          exact hfresh i hi (List.mem_cons_of_mem _ hmem)
        refine ⟨r.id :: before, after, by rw [heq]; rfl, ⟨List.nodup_cons.2 ⟨hnew, hnodup⟩,
          List.forall_mem_cons.2 ⟨hseen, hother⟩⟩, ?_⟩
        rw [List.mem_cons] at hid ⊢
        tauto
      · rintro ⟨before, after, heq, ⟨hnodup, hfresh⟩, hid⟩
        cases before with
        | nil =>
          obtain ⟨rfl, -⟩ := List.cons.inj heq
          simp [hseen] at hid
        | cons i before =>
          -- the id of the rule is among those seen from here on, and no longer in front
          obtain ⟨rfl, hrest⟩ := List.cons.inj heq
          obtain ⟨hr, hnodup⟩ := List.nodup_cons.1 hnodup
          refine ⟨before, after, hrest, ⟨hnodup, ?_⟩, ?_⟩
          · intro i hi hmem
            rcases List.mem_cons.1 hmem with rfl | hmem
            · exact hr hi
            · exact hfresh i (List.mem_cons_of_mem _ hi) hmem
          · rw [List.mem_cons] at hid ⊢
            tauto

/-- The duplicate that is found is the first repeated id. -/
theorem duplicate?_eq_some_iff :
    duplicate? [] rules = some id ↔ IsFirstRepeat (rules.map Rule.id) id := by
  rw [duplicate?_eq_some_iff_of_seen]
  simp [IsFirstRepeat]

theorem ofRules_eq_ok_iff {s : RuleSet} : ofRules rules = .ok s ↔
    (rules.map Rule.id).Nodup ∧ s = ⟨unversioned, Rule.inOrder rules⟩ := by
  unfold ofRules
  -- rules without duplicates are put in order
  cases h : duplicate? [] rules with
  | none =>
    have hnodup := (duplicate?_eq_none_iff.1 h).1
    simp [hnodup, eq_comm]
  | some id =>
    constructor
    · intro hs
      cases hs
    · rintro ⟨hnodup, -⟩
      have hnone : duplicate? [] rules = none := duplicate?_eq_none_iff.2 ⟨hnodup, by simp⟩
      simp [h] at hnone

/-- Rules are refused exactly for the first repeated id. -/
theorem ofRules_eq_error_iff {e : Rule.Error} : ofRules rules = .error e ↔
    ∃ id, IsFirstRepeat (rules.map Rule.id) id ∧ e = .duplicateId id := by
  simp only [← duplicate?_eq_some_iff]
  unfold ofRules
  cases duplicate? [] rules with
  | none => simp
  | some id => simp [eq_comm]

/-! ### A set of rules -/

namespace Draft

variable {d : Draft} {s : RuleSet} {e : Rule.Error}

/-- Whether an error is the fault of the first rule that has one of its own. -/
def FailsFirst (d : Draft) (e : Rule.Error) : Prop :=
  ∃ before r after, d.rules = before ++ r :: after ∧ (∀ q ∈ before, q.IsSound) ∧ r.Fails e

theorem map_id_of_makes {drafts : List Rule.Draft}
    (h : List.Forall₂ (fun q r => q.build = .ok r) drafts rules) :
    rules.map Rule.id = drafts.map (·.id) := by
  symm
  apply map_eq_of_forall₂ h
  intro r _ q hr
  obtain ⟨-, hmakes⟩ := Rule.Draft.build_eq_ok_iff.1 hr
  exact hmakes.id.symm

/-- Building drafts fails with the fault of the first that has one. -/
theorem mapM_build_eq_error_iff : d.rules.mapM Rule.Draft.build = .error e ↔ d.FailsFirst e := by
  simp only [mapM_eq_error_iff, Rule.Draft.exists_build_iff, Rule.Draft.build_eq_error_iff,
    FailsFirst]

theorem build_of_mapM_eq_ok (h : d.rules.mapM Rule.Draft.build = .ok rules) :
    d.build = (ofRules rules).map (·.withVersion d.version) := by
  unfold build
  rw [h]
  cases hset : ofRules rules <;> simp [bind, Except.bind, pure, Except.pure, Except.map, hset]

theorem build_of_mapM_eq_error (h : d.rules.mapM Rule.Draft.build = .error e) :
    d.build = .error e := by
  unfold build
  rw [h]
  rfl

/-- **A draft makes a whole set of rules or none.**  It makes one if and only if all ids are not
blank, all patterns can be read and no id is repeated.  The set has the version of the draft and one
rule for each of its rules, by descending priority and those of one priority in their order.
Otherwise the error is that of the first rule with a blank id or else a pattern that cannot be read;
only if there is no such rule, it is that of the first id that occurs a second time. -/
theorem build_spec (d : Draft) :
    ((∃ s, d.build = .ok s) ↔ (∀ r ∈ d.rules, r.IsSound) ∧ (d.rules.map (·.id)).Nodup) ∧
    (∀ s, d.build = .ok s → s.version = d.version ∧
      ∃ rules, List.Forall₂ Rule.Draft.Makes d.rules rules ∧
        Rule.IsEvaluationOrder rules s.rules) ∧
    ∀ e, d.build = .error e ↔ d.FailsFirst e ∨
      (∀ r ∈ d.rules, r.IsSound) ∧
        ∃ id, IsFirstRepeat (d.rules.map (·.id)) id ∧ e = .duplicateId id := by
  have hsound : (∀ r ∈ d.rules, r.IsSound) ↔
      ∃ rules, d.rules.mapM Rule.Draft.build = .ok rules := by
    simp only [exists_mapM_eq_ok_iff, Rule.Draft.exists_build_iff]
  rw [hsound]
  simp only [← mapM_build_eq_error_iff]
  -- the ids are compared only if each draft has made a rule
  cases hrules : d.rules.mapM Rule.Draft.build with
  | error e' => simp [build_of_mapM_eq_error hrules, eq_comm]
  | ok rules =>
    have hbuilt := mapM_eq_ok_iff.1 hrules
    rw [build_of_mapM_eq_ok hrules, ← map_id_of_makes hbuilt]
    refine ⟨?_, ?_, ?_⟩
    · simp [map_eq_ok_iff, ofRules_eq_ok_iff]
    · intro s hs
      obtain ⟨t, ht, rfl⟩ := map_eq_ok_iff.1 hs
      obtain ⟨-, rfl⟩ := ofRules_eq_ok_iff.1 ht
      have hmakes : List.Forall₂ Rule.Draft.Makes d.rules rules :=
        hbuilt.imp fun _ _ h => (Rule.Draft.build_eq_ok_iff.1 h).2
      exact ⟨rfl, rules, hmakes, Rule.isEvaluationOrder_inOrder rules⟩
    · intro e
      simp [map_eq_error_iff, ofRules_eq_error_iff]

end Draft

end RuleSet

end CancellationPolicy
