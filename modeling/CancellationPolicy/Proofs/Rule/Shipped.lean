import CancellationPolicy.Proofs.Extraction.Completeness
import CancellationPolicy.Proofs.Rule.Draft
import CancellationPolicy.Rule.Shipped
import CancellationPolicy.Text.Canonical

/-!
# Checks of the shipped rules

There is a set of shipped rules (`RuleSet.exists_shipped`).  No path of it lies above another
(`RuleSet.areLeaves_of_shipped`), and its rules read counts and complete what they begin
(`RuleSet.sound_of_shipped`).  What they build from a given text is evaluated rule by rule
(`RuleSet.record_of_shipped`).

A check of the rules is evaluated on the characters of their patterns (`checkAll`); what does not
depend on patterns is read off the data.
-/

namespace CancellationPolicy

/-! ### Reading characters -/

/-- Reads the characters of a pattern text. -/
def Pattern.ofChars? (m : Mode) (cs : List Char) : Option Pattern :=
  match Notation.alternatives? (cs.length + 1) m [] [] [] cs with
  | some (x, _, []) => if x.depth ≤ nesting then some x.pattern else none
  | _ => none

theorem Pattern.parse?_eq_ofChars? (m : Mode) (text : String) :
    parse? m text = ofChars? m text.toList := rfl

namespace RuleSet

/-- The rule that data stand for. -/
def Shipped.build (e : Shipped) : Except Rule.Error Rule :=
  Rule.build e.1 e.2.1 e.2.2.1
    (some (e.2.2.2.map fun (path, template) => Rule.Field.ofTemplate path template))

/-- The rule with a pattern and the rest as data say. -/
def Shipped.rule (e : Shipped) (pattern : Pattern) : Rule :=
  { id := e.1
    priority := e.2.1
    source := e.2.2.1
    pattern
    fields := some (e.2.2.2.map fun (path, template) => Rule.Field.ofTemplate path template) }

theorem Shipped.build_eq_ok_iff {e : Shipped} {r : Rule} :
    e.build = .ok r ↔
      (Text.trim e.1.toList).isEmpty = false ∧
        ∃ pattern, Pattern.ofChars? .anyCase e.2.2.1.toList = some pattern ∧
          pattern.fits Rule.patternLimit = true ∧ e.rule pattern = r := by
  unfold build Rule.build Rule.pattern?
  rw [Pattern.parse?_eq_ofChars?]
  cases (Text.trim e.1.toList).isEmpty with
  | true => simp
  | false =>
    cases Pattern.ofChars? .anyCase e.2.2.1.toList with
    | none => simp
    | some pattern => cases hfits : pattern.fits Rule.patternLimit <;> simp [hfits, rule]

theorem Shipped.of_build_eq_ok {e : Shipped} {r : Rule} (h : e.build = .ok r) :
    r.id = e.1 ∧ r.priority = e.2.1 ∧ r.paths = e.2.2.2.map Prod.fst := by
  obtain ⟨-, pattern, -, -, rfl⟩ := build_eq_ok_iff.1 h
  refine ⟨rfl, rfl, ?_⟩
  rw [Rule.paths, rule, Option.getD_some, List.map_map]
  rfl

/-! ### Sets of rules that data stand for -/

/-- The set of the rules that data stand for. -/
def ofShipped (es : List Shipped) : Except Rule.Error RuleSet := do
  let rules ← es.mapM Shipped.build
  return (← ofRules rules).withVersion "v1"

theorem shipped?_eq_ofShipped : shipped? = ofShipped shippedRules := rfl

/-- Data with different ids in decreasing order of priorities make a set in their order. -/
theorem exists_ofShipped {es : List Shipped} (h : ∀ e ∈ es, ∃ r, e.build = .ok r)
    (hids : (es.map Prod.fst).Nodup)
    (hpriorities : (es.map fun e => e.2.1).Pairwise fun m n => n ≤ m) :
    ∃ rules, ofShipped es = .ok ⟨"v1", rules⟩ ∧ Rule.inOrder rules = rules ∧
      List.Forall₂ (fun r e => e.build = .ok r) rules es := by
  obtain ⟨rules, hrules⟩ := exists_mapM_eq_ok_iff.2 h
  have hbuilt : List.Forall₂ (fun r e => e.build = .ok r) rules es := (mapM_eq_ok_iff.1 hrules).flip
  have hid := map_eq_of_forall₂ hbuilt fun _ _ _ h => (Shipped.of_build_eq_ok h).1
  have hpriority := map_eq_of_forall₂ hbuilt fun _ _ _ h => (Shipped.of_build_eq_ok h).2.1
  have hordered : Rule.inOrder rules = rules :=
    Rule.inOrder_of_pairwise (List.pairwise_map.1 (hpriority ▸ hpriorities))
  have hset : ofRules rules = .ok ⟨unversioned, rules⟩ :=
    ofRules_eq_ok_iff.2 ⟨hid ▸ hids, by rw [hordered]⟩
  refine ⟨rules, ?_, hordered, hbuilt⟩
  simp only [ofShipped, hrules, hset, bind, Except.bind, pure, Except.pure, withVersion]

/-! ### The shipped rules -/

/-- Whether all rules with the patterns of the shipped data pass a check. -/
def checkAll (check : Shipped → Rule → Bool) : Bool :=
  shippedRules.all fun e =>
    (Pattern.ofChars? .anyCase e.2.2.1.toList).any fun pattern => check e (e.rule pattern)

/-- What is checked on the characters of the patterns holds of the rules. -/
theorem check_of_build {check : Shipped → Rule → Bool} (h : checkAll check = true) {e : Shipped}
    {r : Rule} (he : e ∈ shippedRules) (hr : e.build = .ok r) : check e r = true := by
  obtain ⟨-, pattern, hpattern, -, rfl⟩ := Shipped.build_eq_ok_iff.1 hr
  obtain ⟨pattern', hpattern', hcheck⟩ := (Option.any_eq_true _ _).1 (List.all_eq_true.1 h e he)
  obtain rfl : pattern = pattern' := Option.some.inj (hpattern.symm.trans hpattern')
  exact hcheck

/-- Whether the rule is one that can be built, reads counts and completes what it begins. -/
def isSound (r : Rule) : Bool :=
  !(Text.trim r.id.toList).isEmpty && r.pattern.fits Rule.patternLimit &&
    r.readsCounts && r.completesFee && r.completesDeadline

/-- A rule is sound if it can be built, reads its counts, and completes fees and deadlines. -/
theorem isSound_iff {r : Rule} :
    isSound r = true ↔
      ((Text.trim r.id.toList).isEmpty = false ∧ r.pattern.fits Rule.patternLimit = true) ∧
        r.readsCounts = true ∧ r.completesFee = true ∧ r.completesDeadline = true := by
  simp only [isSound, Bool.and_eq_true, Bool.not_eq_true', and_assoc]

theorem checkAll_isSound : checkAll (fun _ => isSound) = true := by
  -- the kernel is slow at taking the characters of a text, so they are rewritten
  simp only [-String.reduceToList, -String.reduceAppend, checkAll, shippedRules, List.all_cons,
    List.all_nil, String.toList_append]
  repeat rw [String.toList_ofList]
  decide +kernel

/-- No path of the shipped rules is above another one. -/
theorem areLeaves_shippedRules :
    Path.areLeaves (shippedRules.flatMap fun e => e.2.2.2.map Prod.fst) = true := by
  decide +kernel

/-- Each of the shipped rules can be built. -/
theorem exists_build_of_mem {e : Shipped} (he : e ∈ shippedRules) : ∃ r, e.build = .ok r := by
  obtain ⟨pattern, hpattern, hsound⟩ :=
    (Option.any_eq_true _ _).1 (List.all_eq_true.1 checkAll_isSound e he)
  obtain ⟨⟨hid, hfits⟩, -⟩ := isSound_iff.1 hsound
  exact ⟨_, Shipped.build_eq_ok_iff.2 ⟨hid, pattern, hpattern, hfits, rfl⟩⟩

/-- There are shipped rules, one for each of the data and in their order. -/
theorem exists_shipped :
    ∃ s, shipped? = .ok s ∧ Rule.inOrder s.rules = s.rules ∧
      List.Forall₂ (fun r e => e.build = .ok r) s.rules shippedRules := by
  obtain ⟨rules, hset, hfacts⟩ := exists_ofShipped (fun _ he => exists_build_of_mem he)
    (by decide +kernel) (by decide +kernel)
  exact ⟨⟨"v1", rules⟩, shipped?_eq_ofShipped.trans hset, hfacts⟩

variable {s : RuleSet}

/-- The shipped rules are built one by one, and are in order. -/
theorem built_of_shipped (hs : shipped? = .ok s) :
    Rule.inOrder s.rules = s.rules ∧
      List.Forall₂ (fun r e => e.build = .ok r) s.rules shippedRules := by
  obtain ⟨s', hs', hfacts⟩ := exists_shipped
  obtain rfl : s = s' := Except.ok.inj (hs.symm.trans hs')
  exact hfacts

/-- No path of the rules that have been built is above another one. -/
theorem areLeaves_of_shipped (hs : shipped? = .ok s) :
    Path.areLeaves (s.rules.flatMap Rule.paths) = true := by
  have hpaths := map_eq_of_forall₂ (built_of_shipped hs).2
    fun _ _ _ h => (Shipped.of_build_eq_ok h).2.2
  rw [List.flatMap_def, hpaths, ← List.flatMap_def]
  exact areLeaves_shippedRules

/-- Each rule that has been built is sound. -/
theorem sound_of_shipped (hs : shipped? = .ok s) {r : Rule} (hr : r ∈ s.rules) :
    r.readsCounts = true ∧ r.completesFee = true ∧ r.completesDeadline = true := by
  obtain ⟨e, he, hbuild⟩ := exists_mem_of_forall₂ (built_of_shipped hs).2 hr
  exact (isSound_iff.1 (check_of_build checkAll_isSound he hbuild)).2

/-- The record of a text is that of the evidence which the rules have been checked to find. -/
theorem record_of_shipped (hs : shipped? = .ok s) {text : String}
    {evidence : String → List (String × Value)}
    (h : checkAll (fun e r => r.evidence text == evidence e.1) = true) :
    (Rule.applyAll s.rules text).record =
      Record.new.writeAll (shippedRules.flatMap fun e => evidence e.1) := by
  obtain ⟨hordered, hbuilt⟩ := built_of_shipped hs
  have hevidence := map_eq_of_forall₂ hbuilt fun _ he _ hr => beq_iff_eq.1 (check_of_build h he hr)
  rw [Rule.applyAll_eq, hordered, List.flatMap_def, hevidence, ← List.flatMap_def]
  rfl

/-! ### A text with a deadline and a fee -/

/-- The evidence in the text, by the ids of rules. -/
def deadlineAndFee (id : String) : List (String × Value) :=
  if id = "deadline_local_time" then
    [("deadline.absolute_hotel_time", .text "true"), ("deadline.date_ddmmmyy", .text "12MAR25"),
      ("deadline.local_hour", .number (.ofNat 18)), ("deadline.local_minute", .number (.ofNat 30))]
  else if id = "fee_percent_of_stay" then
    [("fee.percent", .number (.ofNat 50)), ("fee.type", .text "percentage")]
  else []

/-- What each shipped rule finds in the text. -/
theorem checkAll_deadlineAndFee :
    checkAll (fun e r => r.evidence "CANCEL BY 18:30 ON 12MAR25 OR PAY 50% OF THE STAY" ==
      deadlineAndFee e.1) = true := by
  simp only [-String.reduceToList, -String.reduceAppend, checkAll, shippedRules, List.all_cons,
    List.all_nil, String.toList_append]
  repeat rw [String.toList_ofList]
  decide +kernel

/-- The record of the text. -/
def deadlineAndFeeRecord : Record :=
  ⟨[("deadline.absolute_hotel_time", .text "true"), ("deadline.date_ddmmmyy", .text "12MAR25"),
    ("deadline.local_hour", .number (.ofNat 18)), ("deadline.local_minute", .number (.ofNat 30)),
    ("fee.percent", .number (.ofNat 50)), ("fee.type", .text "percentage")], []⟩

/-- What the shipped rules extract from the text. -/
theorem record_deadlineAndFee (hs : shipped? = .ok s) :
    (Rule.applyAll s.rules
      (canonical "Cancel by 18:30 on 12mar25 or pay 50% of the stay")).record =
        deadlineAndFeeRecord := by
  have hcanonical : canonical "Cancel by 18:30 on 12mar25 or pay 50% of the stay" =
      "CANCEL BY 18:30 ON 12MAR25 OR PAY 50% OF THE STAY" := by decide +kernel
  rw [hcanonical, record_of_shipped hs checkAll_deadlineAndFee]
  decide +kernel

end RuleSet

end CancellationPolicy
