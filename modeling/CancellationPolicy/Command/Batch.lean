import CancellationPolicy.Command.Basic
import CancellationPolicy.Command.Loading
import CancellationPolicy.Csv
import CancellationPolicy.Extraction.Report

/-! # Extraction from many records

Every record of a list gives an entry: the report of its text, or what is wrong
with the record. Unless the command continues on errors, the first record without
text ends it before anything is written.
-/

namespace CancellationPolicy.Command.Batch

open Script

/-! ### Entries -/

/-- What is wrong with a record. -/
inductive Fault where
  /-- It has no member of the name. -/
  | missing (field : String)
  /-- The member is no text. -/
  | notText (field : String)
  deriving DecidableEq, Repr

/-- What is said of a fault. -/
def Fault.message : Fault → String
  | missing field => "missing field '" ++ field ++ "'"
  | notText field => "field '" ++ field ++ "' is not a string"

/-- The text of a record. -/
def textOf (field : String) (record : Json) : Except Fault String :=
  match record.member? field with
  | none => .error (.missing field)
  | some (.text s) => .ok s
  | some _ => .error (.notText field)

/-- What becomes of a record. -/
structure Entry where
  /-- The place of the record. -/
  index : Nat
  /-- The report of its text, or what is wrong with it. -/
  result : Except Fault Report

namespace Entry

/-- What becomes of a record at a place. -/
def ofRecord (scheme : Report.Scheme) (field : String) (index : Nat) (record : Json) : Entry :=
  ⟨index, (textOf field record).map (Report.ofText scheme)⟩

/-- The entry as a document. -/
def toJson (e : Entry) : Json :=
  .object (("index", .nat e.index) ::
    match e.result with
    | .ok r => ("result", .object r.extraction.members) :: r.judgement
    | .error f => [("error", .text f.message)])

/-- What is wrong with the record. -/
def fault? (e : Entry) : Option Fault :=
  match e.result with
  | .ok _ => none
  | .error f => some f

/-- Whether there is a report that can be used. -/
def isAccepted (e : Entry) : Bool :=
  match e.result with
  | .ok r => r.isAccepted
  | .error _ => false

/-- The row of the entry in a table. -/
def row (e : Entry) : List String :=
  match e.result with
  | .ok r =>
    let x := r.extraction
    [toString e.index, "success", toString x.outcome.record.size, toString x.outcome.hits.length,
      Report.shortened x.confidence.value, Report.shortened x.decision.coverage,
      toString x.decision.signals.length, if r.isAccepted then "true" else "false", ""]
  | .error f => [toString e.index, "error", "", "", "", "", "", "", f.message]

end Entry

/-- The entries of records. -/
def entries (scheme : Report.Scheme) (field : String) (records : List Json) : List Entry :=
  records.mapIdx (Entry.ofRecord scheme field)

/-- The first record without text, and what is wrong with it. -/
def firstFault? (es : List Entry) : Option (Nat × Fault) :=
  es.findSome? fun e => e.fault?.map fun f => (e.index, f)

/-! ### Output -/

/-- The names of the columns of a table. -/
def columns : List String :=
  ["index", "status", "fields", "matches", "confidence", "coverage", "critical_signals",
    "accepted", "error"]

/-- The table of entries. -/
def tableText (es : List Entry) : String :=
  String.join ((columns :: es.map Entry.row).map Csv.row)

/-- The entries as a document. -/
def document (es : List Entry) : String := (Json.array (es.map Entry.toJson)).pretty

/-- How many entries there are of each kind. -/
structure Counts where
  /-- Reports that can be used. -/
  accepted : Nat
  /-- Records without text. -/
  failed : Nat
  /-- Reports that cannot be used. -/
  fallback : Nat
  deriving DecidableEq, Repr

/-- Counts entries. -/
def Counts.ofEntries (es : List Entry) : Counts :=
  let accepted := es.countP (·.isAccepted)
  let failed := es.countP (·.fault?.isSome)
  ⟨accepted, failed, es.length - accepted - failed⟩

/-- The line of counts. -/
def Counts.line (c : Counts) : String :=
  "   " ++ toString c.accepted ++ " accepted, " ++ toString c.fallback ++ " need fallback, " ++
    toString c.failed ++ " failed"

/-! ### Script -/

/-- Reads the records of a command. -/
def readRecords (path : String) : Script (List Json) := do
  if ← isThere path then
    let text ← orFail .storage (← readFile path)
    match (Json.Source.read? text).bind (Json.Source.toJson? Json.Source.nesting) with
    | none => fail .inputUnreadable
    | some (.array records) => return records
    | some _ => fail (.inputNoList path)
  else fail (.inputMissing path)

/-- Writes the table of entries, if it is asked for. -/
def writeTable (es : List Entry) : (path : Option String) → Script Unit
  | none => return
  | some path => do
    orFail .table (← writeFile path (tableText es))
    noteLine ("✓ Summary written to " ++ path)

/-- Extracts policies from records and reports them. -/
def script (userPath : String) (given : Option String) (o : Batch) : Script Unit := do
  let settings ← Command.settings userPath given
  let rules ← rulesOf settings o.rules
  let records ← readRecords o.inputPath
  noteLine ("ℹ Found " ++ toString records.length ++ " records to process")
  let es := entries ⟨rules, settings, o.gate, o.isSummarized⟩ o.textField records
  match firstFault? es, o.continuesOnError with
  | some (index, f), false => fail (.record index f.message)
  | _, _ =>
    match o.output with
    | some path => orFail .storage (← writeFile path (document es))
    | none => printLine (document es)
    writeTable es o.table
    noteLine ""
    noteLine ("✓ Processed " ++ toString es.length ++ " records")
    noteLine (Counts.ofEntries es).line

end CancellationPolicy.Command.Batch
