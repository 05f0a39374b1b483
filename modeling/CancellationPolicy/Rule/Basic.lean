import CancellationPolicy.Pattern.Match
import CancellationPolicy.Pattern.Notation
import CancellationPolicy.Pattern.Weight
import CancellationPolicy.Sorting

/-! # Rules

A rule says what a passage of a text tells about a policy: a pattern, in which
case does not count, and the fields that its parts fill. A rule without fields
is disabled. Rules of a set have different ids, and are applied in decreasing
order of their priorities.
-/

namespace CancellationPolicy

/-- A field and the expression that fills it. -/
structure Rule.Field where
  /-- The path of the field. -/
  path : String
  /-- What it is filled with. -/
  expression : Expression
  deriving DecidableEq, Repr

/-- A pattern and the fields that its parts fill. -/
structure Rule where
  /-- The id. -/
  id : String
  /-- The priority; higher ones come first. -/
  priority : Int
  /-- The pattern as it is written. -/
  source : String
  /-- The pattern. -/
  pattern : Pattern
  /-- The fields, unless the rule is disabled. -/
  fields : Option (List Rule.Field)
  deriving DecidableEq, Repr

namespace Rule

/-- Why there is no rule or no set of rules. -/
inductive Error where
  /-- An id is blank. -/
  | emptyId
  /-- The pattern of a rule is ill-formed or takes too much room. -/
  | invalidPattern (id : String)
  /-- Two rules have the same id. -/
  | duplicateId (id : String)
  deriving DecidableEq, Repr

/-- What is said of an error. -/
def Error.message : Error → String
  | emptyId => "rule with empty id"
  | invalidPattern id => "invalid pattern in rule " ++ id
  | duplicateId id => "duplicate rule id: " ++ id

/-- The largest weight of the pattern of a rule. -/
def patternLimit : Nat := Nat.pow 2 20

/-- Reads the pattern of a rule. -/
def pattern? (source : String) : Option Pattern :=
  match Pattern.parse? .anyCase source with
  | some p => if p.fits patternLimit then some p else none
  | none => none

/-- Makes a rule. -/
def build (id : String) (priority : Int) (source : String) (fields : Option (List Field)) :
    Except Error Rule :=
  if (Text.trim id.toList).isEmpty then .error .emptyId
  else
    match pattern? source with
    | some pattern => .ok { id, priority, source, pattern, fields }
    | none => .error (.invalidPattern id)

/-- A field filled by an expression that is given as a text. -/
def Field.ofTemplate (path template : String) : Field := ⟨path, .parse template⟩

/-- Whether the rule is applied. -/
def isEnabled (r : Rule) : Bool := r.fields.isSome

/-- Rules in the order in which they are applied. -/
def inOrder (rules : List Rule) : List Rule := stableSort (fun r s => s.priority ≤ r.priority) rules

end Rule

/-- Rules with different ids, in the order in which they are applied. -/
structure RuleSet where
  /-- The version of the rules. -/
  version : String
  /-- The rules. -/
  rules : List Rule
  deriving DecidableEq, Repr

namespace RuleSet

/-- The version of rules that have none. -/
def unversioned : String := "unversioned"

/-- The first id that occurs a second time, `seen` being those before. -/
def duplicate? (seen : List String) : List Rule → Option String
  | [] => none
  | r :: rs => if seen.contains r.id then some r.id else duplicate? (r.id :: seen) rs

/-- Makes a set of rules. -/
def ofRules (rules : List Rule) : Except Rule.Error RuleSet :=
  match duplicate? [] rules with
  | some id => .error (.duplicateId id)
  | none => .ok ⟨unversioned, Rule.inOrder rules⟩

/-- The set with a version. -/
def withVersion (s : RuleSet) (version : String) : RuleSet := { s with version }

end RuleSet

end CancellationPolicy
