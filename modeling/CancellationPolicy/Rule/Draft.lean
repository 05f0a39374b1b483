import CancellationPolicy.Json.Basic
import CancellationPolicy.Rule.Basic

/-! # Drafts of rules

A draft is a rule as a document gives it: the pattern is a text, and the fields
are a map that may be nested, the names on the way to a value being the segments
of its path. A rule whose map is missing, no map or holds a list is disabled.
-/

namespace CancellationPolicy

/-- A rule as a document gives it. -/
structure Rule.Draft where
  /-- The id. -/
  id : String
  /-- The priority. -/
  priority : Int
  /-- The pattern. -/
  source : String
  /-- The fields. -/
  map : Option Json

namespace Rule

/-! ### Maps of fields -/

/-- The path of a name below a path. -/
def pathBelow (base name : String) : String := if base = "" then name else base ++ "." ++ name

mutual

/-- The fields of a value at a path, unless it holds a list. A missing value is
no field. -/
def fieldsAt? (path : String) : Json → Option (List Field)
  | .null => some []
  | .bool b => some [.ofTemplate path (if b then "true" else "false")]
  | .number n => some [.ofTemplate path n.toText]
  | .text s => some [.ofTemplate path s]
  | .array _ => none
  | .object ms => fieldsBelow? path ms

/-- The fields of members below a path. -/
def fieldsBelow? (path : String) : List (String × Json) → Option (List Field)
  | [] => some []
  | (k, v) :: ms =>
    match fieldsAt? (pathBelow path k) v, fieldsBelow? path ms with
    | some fs, some gs => some (fs ++ gs)
    | _, _ => none

end

/-- The fields of a map. -/
def fieldsOf? : Json → Option (List Field)
  | .object ms => fieldsBelow? "" ms
  | _ => none

/-- Makes the rule of a draft. -/
def Draft.build (d : Draft) : Except Error Rule :=
  Rule.build d.id d.priority d.source (d.map.bind fieldsOf?)

end Rule

/-- A set of rules as a document gives it. -/
structure RuleSet.Draft where
  /-- The version. -/
  version : String
  /-- The rules. -/
  rules : List Rule.Draft

/-- Makes the set of a draft. The rules are made in order before their ids are
compared. -/
def RuleSet.Draft.build (d : Draft) : Except Rule.Error RuleSet := do
  let rules ← d.rules.mapM Rule.Draft.build
  return (← RuleSet.ofRules rules).withVersion d.version

end CancellationPolicy
