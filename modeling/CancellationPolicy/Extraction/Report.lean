import CancellationPolicy.Extraction.Basic
import CancellationPolicy.Settings.Document
import CancellationPolicy.Span.Document
import CancellationPolicy.Summary

/-! # Reports of extractions

A report is an extraction, whether it can be used, and a summary if one is asked
for. It is written as a document, or as a text to be read.
-/

namespace CancellationPolicy

/-! ### Documents -/

/-- A hit as a document. -/
def Hit.toJson (h : Hit) : Json :=
  .object [
    ("rule_id", .text h.rule), ("span", h.occurrence.span.toJson),
    ("captures", .object (h.occurrence.captures.map fun c => (c.1, .text c.2)))]

/-- A confidence as a document. -/
def Confidence.toJson (c : Confidence Single) : Json :=
  .object [
    ("confidence", .single c.value), ("field_score", .single c.fieldScore),
    ("coverage", .single c.coverage), ("coverage_score", .single c.coverageScore),
    ("critical_present", .nat c.critical), ("penalties", .single c.penalties),
    ("capped", .bool c.isCapped), ("trusted", .bool c.isTrusted)]

/-- A decision as a document. -/
def Decision.toJson (d : Decision Single) : Json :=
  .object [
    ("accept", .bool d.isAccepted), ("coverage", .single d.coverage),
    ("critical_signals", .nat d.signals.length), ("signals", .texts (d.signals.map Signal.name))]

/-- A summary as a document. -/
def Summary.toJson (s : Summary) : Json :=
  .object [("en", .text s.english), ("cn", .text s.chinese)]

/-- The members of an extraction as a document. The time that it took is not
measured. -/
def Extraction.members (x : Extraction) : List (String × Json) := [
  ("original", .text x.text),
  ("normalized", .text x.canonical),
  ("structured", x.outcome.record.toJson),
  ("spans", .array (x.outcome.spans.map Span.toJson)),
  ("hits", .array (x.outcome.hits.map Hit.toJson)),
  ("confidence", x.confidence.toJson),
  ("decision", x.decision.toJson),
  ("meta", .object [
    ("rules_version", .text x.rulesVersion), ("matches", .nat x.outcome.hits.length),
    ("processing_time_ms", .nat 0)])]

/-! ### Reports -/

/-- What is reported of an extraction. -/
structure Report where
  /-- The extraction. -/
  extraction : Extraction
  /-- Whether it can be used. -/
  isAccepted : Bool
  /-- The summary, if one is asked for. -/
  summary : Option Summary

namespace Report

/-- How extractions are made and reported. -/
structure Scheme where
  /-- The rules. -/
  rules : RuleSet
  /-- The settings. -/
  settings : Settings
  /-- What makes an extraction usable. -/
  gate : Gate
  /-- Whether a summary is asked for. -/
  isSummarized : Bool

/-- The report of a text. -/
def ofText (s : Scheme) (text : String) : Report :=
  let x := Extraction.ofText s.rules s.settings.confidence s.settings.decision text
  { extraction := x
    isAccepted := x.isAccepted s.gate
    summary := if s.isSummarized then some (.ofRecord x.outcome.record) else none }

/-- The members that do not belong to the extraction. -/
def judgement (r : Report) : List (String × Json) :=
  ("accepted", .bool r.isAccepted) :: (r.summary.map fun s => ("rendered", s.toJson)).toList

/-- The report as a document. -/
def toJson (r : Report) : Json := .object (r.extraction.members ++ r.judgement)

/-! ### Texts -/

/-- A number with two decimal places. -/
def shortened (x : Single) : String := x.writeFixed 2

/-- The lines of the fields. -/
def fieldLines (r : Record) : List String :=
  if r.isEmpty then ["  (none)"]
  else r.leaves.map fun l => "  " ++ l.1 ++ " = " ++ l.2.display

/-- The line of a hit. -/
def hitLine (h : Hit) : String :=
  let s := h.occurrence.span
  "  " ++ h.rule ++ " [" ++ toString s.start ++ ".." ++ toString s.stop ++ "]"

/-- The line of the confidence. -/
def confidenceLine (c : Confidence Single) : String :=
  "Confidence: " ++ shortened c.value ++ " (coverage " ++ shortened c.coverage ++
    ", field score " ++ shortened c.fieldScore ++ ", penalties " ++ shortened c.penalties ++ ")"

/-- The line of the decision. -/
def decisionLine (d : Decision Single) : String :=
  "Decision:   coverage " ++ shortened d.coverage ++ ", " ++ toString d.signals.length ++
    " critical signal(s)"

/-- The lines of the report. -/
def lines (r : Report) : List String :=
  let x := r.extraction
  ["Normalized: " ++ x.canonical, "", "Fields:"] ++ fieldLines x.outcome.record ++
    ["", "Matches:"] ++ x.outcome.hits.map hitLine ++
    ["", confidenceLine x.confidence, decisionLine x.decision,
      "Accepted:   " ++ (if r.isAccepted then "yes" else "no (fallback)")] ++
    (match r.summary with
    | some s => ["", "EN: " ++ s.english, "CN: " ++ s.chinese]
    | none => [])

/-- The report as a text of lines. -/
def toText (r : Report) : String := String.join (r.lines.map (· ++ "\n"))

end Report

end CancellationPolicy
