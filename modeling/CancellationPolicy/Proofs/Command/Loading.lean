import CancellationPolicy.Command.Batch
import CancellationPolicy.Proofs.Command.Script
import CancellationPolicy.Proofs.Storage.Folder

/-!
# What commands load

Settings, rules and records are only read (`onlyReads_settings`, `onlyReads_rulesOf`,
`Batch.onlyReads_readRecords`). So it is a matter of the files which settings and rules
a command works with (`Loads`, `run_of_loads`), and which records a batch is given
(`Batch.HoldsRecords`, `Batch.answer_readRecords`).
-/

namespace CancellationPolicy.Command

open Script

/-! ### Settings and rules -/

theorem onlyReads_settingsAt (path : String) : (settingsAt path).OnlyReads :=
  (OnlyReads.readFile path).bind fun
    | .error _ => .fail _
    | .ok _ => .orFail _ _

theorem onlyReads_settingsOrDefault (path : String) : (settingsOrDefault path).OnlyReads :=
  (OnlyReads.isThere path).bind fun
    | true => onlyReads_settingsAt path
    | false => .pure _

theorem onlyReads_settings (userPath : String) : (given : Option String) →
    (Command.settings userPath given).OnlyReads
  | some path => onlyReads_settingsAt path
  | none => onlyReads_settingsOrDefault userPath

theorem onlyReads_rules : (path : Option String) → (rules path).OnlyReads
  | none => .pure _
  | some path => (OnlyReads.readFile path).bind fun
    | .error _ => .pure _
    | .ok _ => .pure _

theorem onlyReads_rulesOf (s : Settings) (given : Option String) : (rulesOf s given).OnlyReads :=
  (onlyReads_rules (given.or s.rulesPath)).bind fun _ => .orFail _ _

/-- The settings and the rules of a command can be loaded from the files of a folder,
and these are they. -/
structure Loads (f : Storage.Folder) (userPath : String) (given rulesPath : Option String)
    (settings : Settings) (rules : RuleSet) : Prop where
  settings_eq : (Command.settings userPath given).answer f = .ok settings
  rules_eq : (rulesOf settings rulesPath).answer f = .ok rules

/-- What follows the loading goes on with what is loaded. -/
theorem run_of_loads {α : Type} {userPath : String} {given rulesPath : Option String}
    {settings : Settings} {rules : RuleSet} {s : Session}
    (h : Loads s.folder userPath given rulesPath settings rules)
    (k : Settings → RuleSet → Script α) :
    (do let a ← Command.settings userPath given; let b ← rulesOf a rulesPath; k a b).run s =
      (k settings rules).run s := by
  rw [run_bind_of_ok ((onlyReads_settings userPath given).run_of_answer h.settings_eq),
    run_bind_of_ok ((onlyReads_rulesOf settings rulesPath).run_of_answer h.rules_eq)]

/-- What a successful run that starts with the loading has loaded. -/
theorem exists_loads_of_run {α : Type} {userPath : String} {given rulesPath : Option String}
    {k : Settings → RuleSet → Script α} {s s' : Session} {x : α}
    (h : (do let a ← Command.settings userPath given; let b ← rulesOf a rulesPath; k a b).run s =
      (s', .ok x)) :
    ∃ settings rules, Loads s.folder userPath given rulesPath settings rules ∧
      (k settings rules).run s = (s', .ok x) := by
  obtain ⟨t, settings, hsettings, hbehind⟩ := exists_of_run_bind h
  obtain ⟨rfl, hsettings⟩ := (onlyReads_settings userPath given).answer_of_run hsettings
  obtain ⟨t', rules, hrules, hlast⟩ := exists_of_run_bind hbehind
  obtain ⟨rfl, hrules⟩ := (onlyReads_rulesOf settings rulesPath).answer_of_run hrules
  exact ⟨settings, rules, ⟨hsettings, hrules⟩, hlast⟩

/-- The settings in a file are what its text is read as. -/
theorem answer_settingsAt_eq_ok_iff {f : Storage.Folder} {path : String} {s : Settings} :
    (settingsAt path).answer f = .ok s ↔
      ∃ text, f.read path = .ok text ∧ Settings.read text = .ok s := by
  cases hread : f.read path with
  | error e => simp [answer, settingsAt, readFile, run_bind, run, Session.start, hread]
  | ok text =>
    cases hs : Settings.read text <;>
      simp [answer, settingsAt, readFile, run_bind, run, Session.start, orFail, hread, hs]

/-- Settings that may be absent are those of the file if it is there, and else the defaults. -/
theorem answer_settingsOrDefault (f : Storage.Folder) (path : String) :
    (settingsOrDefault path).answer f =
      if f.holds path then (settingsAt path).answer f else .ok .default := by
  show (if f.holds path then settingsAt path else return .default).answer f = _
  split <;> rfl

/-- Where there is no file, the settings are the defaults. -/
theorem answer_settingsOrDefault_of_absent {f : Storage.Folder} {path : String}
    (h : f.holds path = false) : (settingsOrDefault path).answer f = .ok .default := by
  rw [answer_settingsOrDefault, h]
  rfl

/-- Where nothing is given and nothing is kept for the user, the settings are the defaults
and the rules the shipped ones. -/
theorem loads_default {f : Storage.Folder} {userPath : String} {rules : RuleSet}
    (h : f.holds userPath = false) (hrules : RuleSet.shipped? = .ok rules) :
    Loads f userPath none none .default rules := by
  constructor
  · exact answer_settingsOrDefault_of_absent h
  · have hpath : (none : Option String).or Settings.default.rulesPath = none := rfl
    rw [answer, rulesOf, hpath, Command.rules, run_bind, run_pure, hrules]
    rfl

/-! ### Records -/

namespace Batch

/-- There is a file with a list of records at the path. -/
def HoldsRecords (f : Storage.Folder) (path : String) (records : List Json) : Prop :=
  ∃ text, f.read path = .ok text ∧
    (Json.Source.read? text).bind (Json.Source.toJson? Json.Source.nesting) = some (.array records)

/-- Reading the records changes nothing. -/
theorem onlyReads_readRecords (path : String) : (readRecords path).OnlyReads := by
  refine (OnlyReads.isThere path).bind fun isThere => ?_
  cases isThere with
  | false => exact .fail _
  | true =>
    refine ((OnlyReads.readFile path).bind fun _ => .orFail _ _).bind fun text => ?_
    split
    · exact .fail _
    · exact .pure _
    · exact .fail _

/-- Records are read exactly if the file at the path has a list of them. -/
theorem answer_readRecords {f : Storage.Folder} {path : String} {records : List Json} :
    (readRecords path).answer f = .ok records ↔ HoldsRecords f path records := by
  -- the file cannot be read, or it can and its document decides
  match hread : f.read path with
  | .error e =>
    simp only [HoldsRecords, hread, reduceCtorEq, false_and, exists_false, iff_false]
    cases hholds : f.holds path <;>
      simp [answer, readRecords, isThere, readFile, run_bind, run, Session.start, orFail, hholds,
        hread]
  | .ok text =>
    -- a file that can be read is there
    have hholds := Storage.Folder.holds_of_read hread
    simp only [HoldsRecords, hread, Except.ok.injEq, exists_eq_left']
    simp only [answer, readRecords, isThere, readFile, run_bind, run, Session.start, orFail,
      hholds, hread, ite_true]
    match (Json.Source.read? text).bind (Json.Source.toJson? Json.Source.nesting) with
    | some (.array items) => simp
    | none | some .null | some (.bool _) | some (.number _) | some (.text _) | some (.object _) =>
      simp

end Batch

end CancellationPolicy.Command
