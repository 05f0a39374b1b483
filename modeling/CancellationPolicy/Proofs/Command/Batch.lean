import CancellationPolicy.Proofs.Command.Entries
import CancellationPolicy.Proofs.Command.Loading
import CancellationPolicy.Proofs.Rule.Shipped

/-!
# Runs of a batch

A batch loads settings, rules and records, and either fails at the first fault or delivers
its entries (`run_script`).  What it delivers is a document that is printed or written
(`GivesOut`), a table if one is asked for, and counts (`of_run_deliver`); each file is
written at a place of its own, so the first is as it was written when the second has been
(`read_of_written`).  All writing comes behind the last fault, and all entries are
accounted for (`run_script_stops_or_accounts`).
-/

namespace CancellationPolicy.Command.Batch

open Script

variable {o : Batch} {userPath : String} {given : Option String} {s s' : Session}
  {settings : Settings} {rules : RuleSet} {records : List Json} {es : List Entry}

/-! ### Writing -/

/-- The files after a text has been written, if a path is given for it. -/
def written (f : Storage.Folder) (text : String) :
    (path : Option String) → Except Storage.Error Storage.Folder
  | none => .ok f
  | some p => f.write p text

/-- Prints a text, or writes it if a path is given for it. -/
def writeOutput (text : String) : (path : Option String) → Script Unit
  | some path => do orFail .storage (← writeFile path text)
  | none => printLine text

/-- A text that is given out is either printed or in a file, and a file that cannot be written
leaves the session as it is. -/
theorem run_writeOutput (text : String) (path : Option String) :
    (writeOutput text path).run s = match written s.folder text path with
      | .ok f => ({ s with
          folder := f
          printed := s.printed ++ if path = none then [text] else [] }, .ok ())
      | .error e => (s, .error (.storage e)) := by
  cases path with
  | none => rfl
  | some p =>
    simp only [writeOutput, writeFile, run_bind, run, written, Session.settle]
    cases s.folder.write p text <;> simp [orFail, run]

/-- A table is in its file, and the user is told so; without a path nothing happens. -/
theorem run_writeTable (path : Option String) :
    (writeTable es path).run s = match written s.folder (tableText es) path with
      | .ok f => ({ s with
          folder := f
          noted := s.noted ++ (path.map ("✓ Summary written to " ++ ·)).toList }, .ok ())
      | .error e => (s, .error (.table e)) := by
  cases path with
  | none => simp [writeTable, written]
  | some p =>
    simp only [writeTable, writeFile, run_bind, run, written, Session.settle]
    cases s.folder.write p (tableText es) <;> simp [orFail, run]

/-! ### Steps -/

/-- How a batch makes and reports its extractions. -/
def scheme (o : Batch) (settings : Settings) (rules : RuleSet) : Report.Scheme :=
  ⟨rules, settings, o.gate, o.isSummarized⟩

/-- What a batch does with its entries. -/
def deliver (o : Batch) (es : List Entry) : Script Unit := do
  writeOutput (document es) o.output
  writeTable es o.table
  noteLine ""
  noteLine ("✓ Processed " ++ toString es.length ++ " records")
  noteLine (Counts.ofEntries es).line

/-- The session behind the first note. -/
def announced (s : Session) (records : List Json) : Session :=
  { s with noted := s.noted ++ ["ℹ Found " ++ toString records.length ++ " records to process"] }

/-- A batch that can load what it needs notes the number of records first.  Then it fails at the
first fault if it is to stop at one, and delivers its entries otherwise. -/
theorem run_script (hloads : Loads s.folder userPath given o.rules settings rules)
    (hrecords : HoldsRecords s.folder o.inputPath records) :
    (o.script userPath given).run s =
      (match firstFault? (entries (o.scheme settings rules) o.textField records),
          o.continuesOnError with
      | some (index, f), false => fail (.record index f.message)
      | _, _ => o.deliver (entries (o.scheme settings rules) o.textField records)).run
        (announced s records) := by
  rw [script, run_of_loads hloads, run_bind_of_ok
    ((onlyReads_readRecords o.inputPath).run_of_answer (answer_readRecords.2 hrecords))]
  unfold deliver
  cases o.output <;> rfl

/-- A delivery succeeds exactly if both files can be written, one after the other, and then it has
written them, printed the document if there is no file for it, and noted the counts. -/
theorem run_deliver_eq_ok : (o.deliver es).run s = (s', .ok ()) ↔
    ∃ f g, written s.folder (document es) o.output = .ok f ∧
      written f (tableText es) o.table = .ok g ∧
      s' = { s with
        folder := g
        printed := s.printed ++ if o.output = none then [document es] else []
        noted := s.noted ++ (o.table.map ("✓ Summary written to " ++ ·)).toList ++
          ["", "✓ Processed " ++ toString es.length ++ " records",
            (Counts.ofEntries es).line] } := by
  rw [deliver, run_bind, run_writeOutput]
  match written s.folder (document es) o.output with
  | .error e => simp
  | .ok f =>
    simp only [run_bind, run_writeTable, Except.ok.injEq, exists_and_left, exists_eq_left']
    match written f (tableText es) o.table with
    | .error e => simp
    | .ok g =>
      simp only [run_noteLine, Prod.mk.injEq, and_true, Except.ok.injEq, exists_eq_left',
        List.append_assoc]
      exact eq_comm

/-! ### Files -/

theorem exists_written {f : Storage.Folder} {path : Option String}
    (h : ∀ p ∈ path, f.IsWritable p) (text : String) : ∃ g, written f text path = .ok g := by
  cases path with
  | none => exact ⟨f, rfl⟩
  | some p => exact h p rfl text

theorem isWritable_of_written {f g : Storage.Folder} {text : String} {path : Option String}
    (hw : written f text path = .ok g) {q : String} (h : f.IsWritable q) : g.IsWritable q := by
  cases path with
  | none => exact Except.ok.inj hw ▸ h
  | some p => exact h.of_write hw

/-- What a batch gives out is a line that is printed, or in the file that is asked for,
which is not to be the file of the table. -/
def GivesOut (o : Batch) (s s' : Session) (text : String) : Prop :=
  match o.output with
  | none => s'.printed = s.printed ++ [text]
  | some p => s'.printed = s.printed ∧
      ((∀ q ∈ o.table, s.folder.locate q ≠ s.folder.locate p) → s'.folder.read p = .ok text)

theorem read_of_written {f g h : Storage.Folder} {p text text' : String} {path : Option String}
    (hw : f.write p text = .ok g) (hw' : written g text' path = .ok h)
    (hne : ∀ q ∈ path, f.locate q ≠ f.locate p) : h.read p = .ok text := by
  have hread := Storage.Folder.read_of_write hw
  cases path with
  | none => exact Except.ok.inj hw' ▸ hread
  | some q =>
    obtain ⟨place, hplace, -⟩ := Storage.Folder.read_eq_ok.1 hread
    refine Storage.Folder.read_of_write_of_ne hw' (fun heq => hne q rfl ?_) hread
    -- both paths lead where they led before the first file was written
    rw [hplace] at heq
    rw [(Storage.Folder.locate_of_write hw q _).1 heq.symm,
      (Storage.Folder.locate_of_write hw p _).1 hplace]

/-- What a successful batch leaves. -/
theorem of_run_deliver (h : (o.deliver es).run s = (s', .ok ())) :
    o.GivesOut s s' (document es) ∧ (∀ q ∈ o.table, s'.folder.read q = .ok (tableText es)) ∧
      s'.noted.getLast? = some (Counts.ofEntries es).line := by
  obtain ⟨f, g, hf, hg, rfl⟩ := run_deliver_eq_ok.1 h
  refine ⟨?_, ?_, by simp⟩
  · rw [GivesOut]
    cases houtput : o.output with
    | none => simp
    | some p =>
      rw [houtput] at hf
      exact ⟨by simp, read_of_written hf hg⟩
  · intro q hq
    rw [Option.mem_def.1 hq] at hg
    exact Storage.Folder.read_of_write hg

/-! ### Two records -/

/-- Two records as a text, of which the second one has no text. -/
def twoRecordsText : String :=
  "[\x7b\"cancellationText\": \"FREE\"\x7d, \x7b\"cancellationText\": 5\x7d]"

/-- A folder with a file of two records. -/
def twoRecords : Storage.Folder := ⟨"/work", [(["in.json"], .file (some twoRecordsText))]⟩

/-- The rules, the settings and the records of the folder are found. -/
theorem exists_twoRecords :
    ∃ rules records, Loads twoRecords "user.json" none none .default rules ∧
      HoldsRecords twoRecords "in.json" records ∧
      records.map (text? "cancellationText") = [some "FREE", none] := by
  obtain ⟨rules, hrules, -⟩ := RuleSet.exists_shipped
  have hread : twoRecords.read "in.json" = .ok twoRecordsText := by decide +kernel
  have htexts : ((Json.Source.read? twoRecordsText).bind
      (Json.Source.toJson? Json.Source.nesting)).bind (texts? "cancellationText") =
        some [some "FREE", none] := by decide +kernel
  obtain ⟨document, hdocument, hlist⟩ := Option.bind_eq_some_iff.1 htexts
  obtain ⟨records, rfl, hmap⟩ := exists_of_texts? hlist
  exact ⟨rules, records, loads_default (by decide +kernel) hrules, ⟨_, hread, hdocument⟩, hmap⟩

/-! ### Runs -/

/-- A batch that stops at faults has done nothing but note the number of records. -/
theorem run_script_of_fault {i : Nat} {f : Fault}
    (hloads : Loads s.folder userPath given o.rules settings rules)
    (hrecords : HoldsRecords s.folder o.inputPath records) (hstops : o.continuesOnError = false)
    (hfault : firstFault? (entries (o.scheme settings rules) o.textField records) = some (i, f)) :
    (o.script userPath given).run s = (announced s records, .error (.record i f.message)) := by
  rw [run_script hloads hrecords, hfault, hstops]
  rfl

/-- A batch that goes on behind faults delivers all its entries. -/
theorem run_script_of_continues
    (hloads : Loads s.folder userPath given o.rules settings rules)
    (hrecords : HoldsRecords s.folder o.inputPath records) (hgoes : o.continuesOnError = true) :
    (o.script userPath given).run s =
      (o.deliver (entries (o.scheme settings rules) o.textField records)).run
        (announced s records) := by
  rw [run_script hloads hrecords, hgoes]
  cases firstFault? (entries (o.scheme settings rules) o.textField records) <;> rfl

/-- A batch that is not to continue on errors ends at the least place of a record without
text, and neither prints nor writes.  One that is to continue succeeds where its files can
be written, and its document, its table and its counts account for every record. -/
theorem run_script_stops_or_accounts
    (hloads : Loads s.folder userPath given o.rules settings rules)
    (hrecords : HoldsRecords s.folder o.inputPath records) :
    (o.continuesOnError = false → (∃ r ∈ records, text? o.textField r = none) →
      ∃ i f t, (o.script userPath given).run s = (t, .error (.record i f.message)) ∧
        IsLeast {j | ∃ r, records[j]? = some r ∧ text? o.textField r = none} i ∧
        (∃ r, records[i]? = some r ∧ textOf o.textField r = .error f) ∧
        t.printed = s.printed ∧ t.folder = s.folder) ∧
    (o.continuesOnError = true → (∀ p ∈ o.output, s.folder.IsWritable p) →
      (∀ q ∈ o.table, s.folder.IsWritable q) →
      ∃ t items rows c, (o.script userPath given).run s = (t, .ok ()) ∧
        Accounts (o.scheme settings rules) o.textField records items rows c ∧
        o.GivesOut s t (Json.array items).pretty ∧
        (∀ q ∈ o.table, ∃ text, t.folder.read q = .ok text ∧
          Csv.read? text = some (columns :: rows)) ∧
        t.noted.getLast? = some c.line) := by
  constructor
  · -- nothing has been printed or written when the faults are looked for
    rintro hstops ⟨r, hr, hlacks⟩
    match hfault : firstFault? (entries (o.scheme settings rules) o.textField records) with
    | none =>
      have htext := firstFault?_eq_none.1 hfault r hr
      simp [hlacks] at htext
    | some (i, f) =>
      obtain ⟨hrecord, hleast⟩ := isLeast_of_firstFault? hfault
      exact ⟨i, f, _, run_script_of_fault hloads hrecords hstops hfault, hleast, hrecord, rfl, rfl⟩
  · -- the first file takes no place away from the second, so both are written
    intro hgoes houtput htable
    rw [run_script_of_continues hloads hrecords hgoes]
    obtain ⟨f, hf⟩ := exists_written houtput
      (document (entries (o.scheme settings rules) o.textField records))
    obtain ⟨g, hg⟩ := exists_written (fun q hq => isWritable_of_written hf (htable q hq))
      (tableText (entries (o.scheme settings rules) o.textField records))
    obtain ⟨t, hrun⟩ : ∃ t, (o.deliver (entries (o.scheme settings rules) o.textField records)).run
        (announced s records) = (t, .ok ()) :=
      ⟨_, run_deliver_eq_ok.2 ⟨f, g, hf, hg, rfl⟩⟩
    obtain ⟨hgives, hread, hline⟩ := of_run_deliver hrun
    rw [document_entries] at hgives
    exact ⟨_, _, _, _, hrun, accounts_entries _ _ _, hgives,
      fun q hq => ⟨_, hread q hq, read?_tableText _⟩, hline⟩

/-- Of the two records, the second one ends a batch or is accounted for. -/
theorem run_script_stops_or_accounts_twoRecords :
    let s := Session.start twoRecords ""
    let o : Batch :=
      ⟨"in.json", some "out.json", some "table.csv", "cancellationText", false, none, .confidence,
        false⟩
    (∃ (f : Fault) (t : Session),
      (o.script "user.json" none).run s = (t, .error (.record 1 f.message)) ∧
        t.folder = twoRecords) ∧
    ∃ (t : Session) (rows : List (List String)) (c : Counts),
      (({ o with continuesOnError := true } : Batch).script "user.json" none).run s =
        (t, .ok ()) ∧
      (∃ text, t.folder.read "table.csv" = .ok text ∧ Csv.read? text = some (columns :: rows)) ∧
      rows.length = 2 ∧ c.failed = 1 ∧ c.accepted + c.fallback = 1 ∧
      t.noted.getLast? = some c.line := by
  intro s o
  obtain ⟨rules, records, hloads, hrecords, htexts⟩ := exists_twoRecords
  obtain ⟨r₀, r₁, rfl⟩ := List.length_eq_two.1 (by simpa using congrArg List.length htexts)
  simp only [List.map_cons, List.map_nil, List.cons.injEq, and_true] at htexts
  refine ⟨?_, ?_⟩
  -- the least record that lacks a text is the second one, because the first has one
  · obtain ⟨i, f, t, hrun, ⟨⟨r, hr, hlacks⟩, hleast⟩, -, -, hfolder⟩ :=
      (run_script_stops_or_accounts (s := s) (o := o) hloads hrecords).1 rfl
        ⟨r₁, by simp, htexts.2⟩
    have hle : i ≤ 1 := hleast ⟨r₁, rfl, htexts.2⟩
    have hne : i ≠ 0 := by
      rintro rfl
      obtain rfl : r₀ = r := Option.some.inj hr
      exact absurd (hlacks.symm.trans htexts.1) (by simp)
    obtain rfl : i = 1 := by omega
    exact ⟨f, t, hrun, hfolder⟩
  -- both files can be written, as an empty text can be written to either
  · have houtput : twoRecords.write "out.json" "" =
        .ok (twoRecords.put ["out.json"] (.file (some ""))) := by decide +kernel
    have htable : twoRecords.write "table.csv" "" =
        .ok (twoRecords.put ["table.csv"] (.file (some ""))) := by decide +kernel
    obtain ⟨t, items, rows, c, hrun, haccounts, -, hread, hline⟩ :=
      (run_script_stops_or_accounts (s := s) (o := { o with continuesOnError := true }) hloads
        hrecords).2 rfl
        (fun p hp => Option.mem_some.1 hp ▸ Storage.Folder.isWritable_of_write houtput)
        (fun q hq => Option.mem_some.1 hq ▸ Storage.Folder.isWritable_of_write htable)
    have hfailed : c.failed = 1 := by simpa [o, htexts] using haccounts.failed_eq
    have hadd : c.accepted + c.fallback + c.failed = 2 := haccounts.add_eq_length
    exact ⟨t, rows, c, hrun, hread _ rfl, haccounts.length_rows, hfailed, by omega, hline⟩

end CancellationPolicy.Command.Batch
