import CancellationPolicy.Command.Extract
import CancellationPolicy.Proofs.Command.Batch

/-!
# A batch and extractions from single texts

A batch and an extraction from one text load settings and rules in the same way, and report
a text in the same way: the members that the one writes side by side are those that the
other writes in an entry (`Batch.script_agrees_with_extract`).
-/

namespace CancellationPolicy.Command

open Script

variable {userPath : String} {given : Option String} {s s' : Session}
  {settings : Settings} {rules : RuleSet}

/-! ### Extraction from one text -/

/-- The extraction from a text prints the report of the text. -/
theorem Extract.run_script {x : Extract} {t : String} (houtput : x.output = none)
    (hloads : Loads s.folder userPath given x.rules settings rules)
    (htext : x.readText.run s = (s', .ok t)) :
    (x.script userPath given).run s =
      ({ s' with printed := s'.printed ++
        [write (.ofText ⟨rules, settings, x.gate, x.isSummarized⟩ t) x.format] }, .ok ()) := by
  rw [script, run_of_loads hloads, run_bind_of_ok htext, houtput]
  rfl

/-- A report says whether the extraction can be used, and the summary if one is asked for. -/
theorem names_judgement (scheme : Report.Scheme) (t : String) :
    (Report.ofText scheme t).judgement.map Prod.fst =
      "accepted" :: (if scheme.isSummarized then ["rendered"] else []) := by
  rw [Report.judgement, Report.ofText]
  cases scheme.isSummarized <;> rfl

/-! ### Extraction from many records -/

namespace Batch

variable {o : Batch}

/-- What a successful batch has loaded and delivers. -/
theorem exists_of_run_script (h : (o.script userPath given).run s = (s', .ok ())) :
    ∃ settings rules records, Loads s.folder userPath given o.rules settings rules ∧
      HoldsRecords s.folder o.inputPath records ∧
      (o.deliver (entries (o.scheme settings rules) o.textField records)).run
        (announced s records) = (s', .ok ()) := by
  -- one reading of the run gives what it loads, the other what it does with that
  have hsteps := h
  rw [script] at hsteps
  obtain ⟨settings, rules, hloads, hbehind⟩ := exists_loads_of_run hsteps
  obtain ⟨t, records, hrecords, -⟩ := exists_of_run_bind hbehind
  obtain ⟨rfl, hrecords⟩ := (onlyReads_readRecords o.inputPath).answer_of_run hrecords
  refine ⟨settings, rules, records, hloads, answer_readRecords.1 hrecords, ?_⟩
  rw [run_script hloads (answer_readRecords.1 hrecords)] at h
  split at h
  · simp at h
  · exact h

/-- A successful batch gives out one entry for each record, in order, which is a matter of
the place and of the record alone.  Where the record has a text, the entry carries what an
extraction from that text prints, if it works with the same settings and rules: the members
of its result under one name, the others beside it. -/
theorem script_agrees_with_extract (h : (o.script userPath given).run s = (s', .ok ())) :
    ∃ settings rules records, Loads s.folder userPath given o.rules settings rules ∧
      HoldsRecords s.folder o.inputPath records ∧
      o.GivesOut s s'
        (Json.array (records.mapIdx (item (o.scheme settings rules) o.textField))).pretty ∧
      (∀ i r, ∃ members, item (o.scheme settings rules) o.textField i r =
        .object (("index", .nat i) :: members)) ∧
      ∀ i r t, text? o.textField r = some t → ∃ result judgement,
        item (o.scheme settings rules) o.textField i r =
          .object (("index", .nat i) :: ("result", .object result) :: judgement) ∧
        judgement.map Prod.fst = "accepted" :: (if o.isSummarized then ["rendered"] else []) ∧
        ∀ (x : Extract) (userPath' : String) (given' : Option String) (e e' : Session),
          x.gate = o.gate → x.isSummarized = o.isSummarized → x.format = .json →
          x.output = none → Loads e.folder userPath' given' x.rules settings rules →
          x.readText.run e = (e', .ok t) →
          (x.script userPath' given').run e =
            ({ e' with printed := e'.printed ++ [(Json.object (result ++ judgement)).pretty] },
              .ok ()) := by
  obtain ⟨settings, rules, records, hloads, hrecords, hrun⟩ := exists_of_run_script h
  refine ⟨settings, rules, records, hloads, hrecords, ?_, fun i r => ?_, fun i r t ht => ?_⟩
  · rw [← document_entries]
    exact (of_run_deliver hrun).1
  · exact ⟨_, rfl⟩
  · -- both commands report the text by one scheme, and write the same two lists of members
    refine ⟨_, _, item_of_text ht, names_judgement _ t, ?_⟩
    intro x userPath' given' e e' hgate hsummary hformat houtput hloads' htext
    rw [Extract.run_script houtput hloads' htext, hgate, hsummary, hformat]
    rfl

/-- A batch of two records prints for the first one what an extraction from its text prints. -/
theorem script_agrees_with_extract_twoRecords :
    let s := Session.start twoRecords ""
    let o : Batch :=
      ⟨"in.json", none, none, "cancellationText", true, none, .decision, true⟩
    let x : Extract := ⟨some "FREE", none, none, .json, true, none, .decision⟩
    ∃ (result judgement : List (String × Json)) (f : Fault) (t : Session),
      (o.script "user.json" none).run s = (t, .ok ()) ∧
      t.printed = [(Json.array [
        .object (("index", .nat 0) :: ("result", .object result) :: judgement),
        .object [("index", .nat 1), ("error", .text f.message)]]).pretty] ∧
      (x.script "user.json" none).run s =
        ({ s with printed := [(Json.object (result ++ judgement)).pretty] }, .ok ()) := by
  intro s o x
  obtain ⟨rules, records, hloads, hrecords, htexts⟩ := exists_twoRecords
  -- the batch goes on behind the second record, so it delivers
  obtain ⟨t, hrun⟩ : ∃ t, (o.script "user.json" none).run s = (t, .ok ()) :=
    ⟨_, (run_script_of_continues hloads hrecords rfl).trans
      (run_deliver_eq_ok.2 ⟨twoRecords, twoRecords, rfl, rfl, rfl⟩)⟩
  obtain ⟨settings', rules', records', hloads', hrecords', hgives, -, hagree⟩ :=
    script_agrees_with_extract hrun
  -- the records the run speaks of are those of the folder
  obtain rfl : records' = records := Except.ok.inj
    ((answer_readRecords.2 hrecords').symm.trans (answer_readRecords.2 hrecords))
  obtain ⟨r₀, r₁, rfl⟩ := List.length_eq_two.1 (by simpa using congrArg List.length htexts)
  simp only [List.map_cons, List.map_nil, List.cons.injEq, and_true] at htexts
  obtain ⟨result, judgement, hitem, -, hextract⟩ := hagree 0 r₀ "FREE" htexts.1
  obtain ⟨f, hf⟩ := exists_fault htexts.2
  refine ⟨result, judgement, f, t, hrun, ?_,
    hextract x "user.json" none s s rfl rfl rfl rfl hloads' rfl⟩
  have hfault : item (o.scheme settings' rules') "cancellationText" 1 r₁ =
      .object [("index", .nat 1), ("error", .text f.message)] := item_of_fault hf
  rw [← hitem, ← hfault]
  exact hgives

end Batch

end CancellationPolicy.Command
