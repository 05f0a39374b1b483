import CancellationPolicy.Pattern.Reach
import CancellationPolicy.Record.Basic
import CancellationPolicy.Rule.Basic

/-! # Applying rules

Rules are applied to a text in the order of their priorities. The occurrences of
the pattern of an enabled rule are looked for one after another. Every occurrence
is a hit with a span, and fills the fields of the rule in order, as far as the
record takes them: the first value of a field stays.
-/

namespace CancellationPolicy

/-- An occurrence of the pattern of a rule. -/
structure Hit where
  /-- The id of the rule. -/
  rule : String
  /-- The occurrence. -/
  occurrence : Occurrence
  deriving DecidableEq

/-- What rules have found in a text. -/
structure Outcome where
  /-- The fields. -/
  record : Record
  /-- The spans of the occurrences, in the order in which they were found. -/
  spans : List Span
  /-- The hits, in the same order. -/
  hits : List Hit
  deriving DecidableEq

namespace Rule

/-- Writes a field whose expression has a value. -/
def fill (captures : Captures) (r : Record) (f : Field) : Record :=
  match f.expression.resolve? captures with
  | some v => r.write f.path v
  | none => r

end Rule

namespace Outcome

/-- Nothing found. -/
def empty : Outcome := ⟨.new, [], []⟩

/-- Notes an occurrence of a rule and fills its fields. -/
def note (o : Outcome) (id : String) (fields : List Rule.Field) (x : Occurrence) : Outcome :=
  { record := fields.foldl (Rule.fill x.captures) o.record
    spans := o.spans ++ [x.span]
    hits := o.hits ++ [⟨id, x⟩] }

end Outcome

/-! ### Searches -/

/-- A search for the occurrences of a rule. -/
structure Search where
  /-- The offset from which on the next occurrence is looked for. -/
  cursor : Nat
  /-- What has been found so far. -/
  outcome : Outcome

namespace Search

/-- Finds the next occurrence of a rule with the given fields, if there is one. -/
def step? (r : Rule) (fields : List Rule.Field) (text : String) (s : Search) : Option Search :=
  (r.pattern.next? text s.cursor).map fun x => ⟨x.span.resume text, s.outcome.note r.id fields x⟩

/-- Every step brings the cursor nearer to the end of the text. -/
theorem step?_measure {r : Rule} {fields : List Rule.Field} {text : String} {s t : Search}
    (h : s.step? r fields text = some t) :
    text.utf8ByteSize + 1 - t.cursor < text.utf8ByteSize + 1 - s.cursor := by
  obtain ⟨x, hx, rfl⟩ := Option.map_eq_some_iff.1 h
  have hle := Pattern.le_of_next? hx
  have hlt := Span.lt_resume hle (Pattern.le_start_of_next? hx)
  dsimp only
  omega

/-- Finds all further occurrences. -/
def run (r : Rule) (fields : List Rule.Field) (text : String) (s : Search) : Outcome :=
  match _h : s.step? r fields text with
  | none => s.outcome
  | some t => run r fields text t
termination_by text.utf8ByteSize + 1 - s.cursor
decreasing_by exact step?_measure ‹_›

end Search

namespace Rule

/-- Applies a rule after others, unless it is disabled. -/
def applyTo (text : String) (o : Outcome) (r : Rule) : Outcome :=
  match r.fields with
  | none => o
  | some fields => Search.run r fields text ⟨0, o⟩

/-- Applies rules to a text. -/
def applyAll (rules : List Rule) (text : String) : Outcome :=
  (inOrder rules).foldl (applyTo text) .empty

end Rule

end CancellationPolicy
