import CancellationPolicy.Json.Source
import CancellationPolicy.Settings.Basic

/-! # Settings as documents

Settings are kept in documents of nested objects. Reading fills members that are
missing with defaults and passes over members of other names. Writing puts all
members in their order; a number that is not finite is written as missing.
-/

namespace CancellationPolicy

open Json (Source)

/-! ### Writing -/

/-- A list of texts as a value. -/
def Json.texts (xs : List String) : Json := .array (xs.map .text)

/-- A bucket as a document. -/
def Bucket.toJson (b : Bucket Single) : Json :=
  .object [("min", .single b.least), ("score", .single b.score)]

/-- Penalties as a document. -/
def Penalties.toJson (p : Penalties Single) : Json :=
  .object [("bad_fee_amount", .single p.feeAmount), ("malformed_numeric", .single p.count)]

/-- The settings of the confidence as a document. -/
def Confidence.Settings.toJson (s : Confidence.Settings Single) : Json :=
  .object [
    ("alpha", .single s.alpha),
    ("field_weights", .object (s.weights.map fun w => (w.1, .single w.2))),
    ("critical_fields", .texts s.critical),
    ("non_critical_strength", .single s.minorStrength),
    ("coverage_to_score", .array (s.buckets.map Bucket.toJson)),
    ("min_critical_signals", .nat s.minCritical),
    ("low_critical_cap", .single s.cap),
    ("penalties", s.penalties.toJson),
    ("accept_threshold", .single s.threshold)]

/-- The settings of the decision as a document. -/
def Decision.Settings.toJson (s : Decision.Settings Single) : Json :=
  .object [
    ("coverage_threshold", .single s.threshold),
    ("min_critical_signals", .nat s.minSignals),
    ("ignorable_chars", .text s.ignorable),
    ("boilerplate_tokens", .texts s.phrases)]

/-- Settings as a document. -/
def Settings.toJson (s : Settings) : Json :=
  .object [
    ("rules", .object (s.rulesPath.map fun p => ("path", .text p)).toList),
    ("scoring", .object [("confidence", s.confidence.toJson), ("decision", s.decision.toJson)])]

/-! ### Reading -/

/-- The members of an object that has the given names. -/
def Json.Source.membersOf? (names : List String) (x : Source) : Option (List (String × Source)) :=
  x.fields? names Source.nesting

/-- A list of values. -/
def Json.Source.listOf? {α : Type} (decode : Source → Option α) (x : Source) : Option (List α) :=
  x.list? (fun _ => decode) Source.nesting

/-- Reads a bucket, which needs both members. -/
def Bucket.ofSource? (x : Source) : Option (Bucket Single) := do
  let ms ← x.membersOf? ["min", "score"]
  let least ← Source.required? "min" ms Source.single?
  let score ← Source.required? "score" ms Source.single?
  return ⟨least, score⟩

/-- Reads penalties. -/
def Penalties.ofSource? (x : Source) : Option (Penalties Single) := do
  let ms ← x.membersOf? ["bad_fee_amount", "malformed_numeric"]
  let d := Penalties.default
  let feeAmount ← Source.optional? "bad_fee_amount" ms d.feeAmount Source.single?
  let count ← Source.optional? "malformed_numeric" ms d.count Source.single?
  return ⟨feeAmount, count⟩

/-- Reads the settings of the confidence. -/
def Confidence.Settings.ofSource? (x : Source) : Option (Confidence.Settings Single) := do
  let ms ← x.membersOf? [
    "alpha", "field_weights", "critical_fields", "non_critical_strength", "coverage_to_score",
    "min_critical_signals", "low_critical_cap", "penalties", "accept_threshold"]
  let d := Confidence.Settings.default
  return {
    alpha := ← Source.optional? "alpha" ms d.alpha Source.single?
    weights := ← Source.optional? "field_weights" ms d.weights
      (Source.keyed? Source.single? Source.nesting)
    critical := ← Source.optional? "critical_fields" ms d.critical (Source.listOf? Source.text?)
    minorStrength := ← Source.optional? "non_critical_strength" ms d.minorStrength Source.single?
    buckets := ← Source.optional? "coverage_to_score" ms d.buckets
      (Source.listOf? Bucket.ofSource?)
    minCritical := ← Source.optional? "min_critical_signals" ms d.minCritical Source.nat?
    cap := ← Source.optional? "low_critical_cap" ms d.cap Source.single?
    penalties := ← Source.optional? "penalties" ms d.penalties Penalties.ofSource?
    threshold := ← Source.optional? "accept_threshold" ms d.threshold Source.single? }

/-- Reads the settings of the decision. -/
def Decision.Settings.ofSource? (x : Source) : Option (Decision.Settings Single) := do
  let ms ← x.membersOf? [
    "coverage_threshold", "min_critical_signals", "ignorable_chars", "boilerplate_tokens"]
  let d := Decision.Settings.default
  return {
    threshold := ← Source.optional? "coverage_threshold" ms d.threshold Source.single?
    minSignals := ← Source.optional? "min_critical_signals" ms d.minSignals Source.nat?
    ignorable := ← Source.optional? "ignorable_chars" ms d.ignorable Source.text?
    phrases := ← Source.optional? "boilerplate_tokens" ms d.phrases
      (Source.listOf? Source.text?) }

namespace Settings

/-- Reads where the rules come from. -/
def rulesOfSource? (x : Source) : Option (Option String) := do
  let ms ← x.membersOf? ["path"]
  Source.optional? "path" ms none (Source.nullable? Source.text?)

/-- Reads how records are scored. -/
def scoringOfSource? (x : Source) :
    Option (Confidence.Settings Single × Decision.Settings Single) := do
  let ms ← x.membersOf? ["confidence", "decision"]
  let confidence ← Source.optional? "confidence" ms .default Confidence.Settings.ofSource?
  let decision ← Source.optional? "decision" ms .default Decision.Settings.ofSource?
  return (confidence, decision)

/-- Reads settings. -/
def ofSource? (x : Source) : Option Settings := do
  let ms ← x.membersOf? ["rules", "scoring"]
  let rulesPath ← Source.optional? "rules" ms none rulesOfSource?
  let (confidence, decision) ← Source.optional? "scoring" ms (.default, .default) scoringOfSource?
  return ⟨rulesPath, confidence, decision⟩

/-- Why a text holds no settings. -/
inductive Error where
  /-- The text is no document of settings. -/
  | unreadable
  /-- The settings have a fault. -/
  | fault (fault : Fault)
  deriving DecidableEq

/-- Reads settings from a text, and checks them. -/
def read (text : String) : Except Error Settings :=
  match (Source.read? text).bind ofSource? with
  | none => .error .unreadable
  | some s =>
    match s.fault? with
    | some f => .error (.fault f)
    | none => .ok s

/-- The text of settings. -/
def write (s : Settings) : String := s.toJson.pretty

end Settings

end CancellationPolicy
