import CancellationPolicy.Json.Source
import CancellationPolicy.Rule.Draft
import CancellationPolicy.Storage.Path
import CancellationPolicy.Yaml.Content

/-! # Rules as documents

The draft of a set of rules is read from nested objects, which are written in
one of two notations. The version and the priorities may be missing.
-/

namespace CancellationPolicy

open Json (Source)
open Yaml (Node Following)

/-! ### Drafts -/

/-- The members of a set of rules. -/
def RuleSet.Draft.members : List String := ["version", "rules"]

/-- The members of a rule. -/
def Rule.Draft.members : List String := ["id", "priority", "regex", "map"]

/-- The least priority. -/
def Rule.minPriority : Int := -(Nat.pow 2 31)

/-- The greatest priority. -/
def Rule.maxPriority : Int := Nat.pow 2 31 - 1

/-- Reads the draft of a rule. The map lies three levels deep in the document. -/
def Rule.Draft.ofSource? (x : Source) : Option Rule.Draft := do
  let ms ← x.fields? Rule.Draft.members Source.nesting
  let id ← Source.required? "id" ms Source.text?
  let priority ← Source.optional? "priority" ms 0 (Source.intWithin? minPriority maxPriority)
  let source ← Source.required? "regex" ms Source.text?
  let map ← Source.optional? "map" ms none (Source.nullable? (Source.toJson? (Source.nesting - 3)))
  return { id, priority, source, map }

/-- Reads the draft of a set of rules. -/
def RuleSet.Draft.ofSource? (x : Source) : Option RuleSet.Draft := do
  let ms ← x.fields? RuleSet.Draft.members Source.nesting
  let version ← Source.optional? "version" ms RuleSet.unversioned Source.text?
  let rules ← Source.required? "rules" ms
    (Source.list? (fun _ => Rule.Draft.ofSource?) Source.nesting)
  return { version, rules }

/-- Reads the draft of a rule from a node. The map lies three levels deep in the
document. -/
def Rule.Draft.ofNode (x : Node) : Following Rule.Draft := do
  let ms ← Following.fields Rule.Draft.members x
  let id ← Following.required "id" ms Following.text
  let priority ← Following.optional "priority" ms 0 (Following.intWithin minPriority maxPriority)
  let source ← Following.required "regex" ms Following.text
  let map ← Following.optional "map" ms none
    (Following.nullable (Following.value (Following.nesting - 3)))
  return { id, priority, source, map }

/-- Reads the draft of a set of rules from a node. -/
def RuleSet.Draft.ofNode (x : Node) : Following RuleSet.Draft := do
  let ms ← Following.fields RuleSet.Draft.members x
  let version ← Following.optional "version" ms RuleSet.unversioned Following.text
  let rules ← Following.required "rules" ms (Following.list Rule.Draft.ofNode)
  return { version, rules }

/-! ### Reading -/

/-- The notations of documents of rules. -/
inductive RuleSet.Format where
  /-- Marked by indentation. -/
  | yaml
  /-- Marked by brackets. -/
  | json
  deriving DecidableEq, Repr

namespace RuleSet

/-- Why no rules can be read. -/
inductive ReadError where
  /-- The text is no document of rules. -/
  | unreadable (format : Format)
  /-- The rules are ill-formed. -/
  | rule (error : Rule.Error)
  deriving DecidableEq, Repr

/-- The draft that a text holds. -/
def Draft.read? : Format → String → Option Draft
  | .json, text => (Source.read? text).bind ofSource?
  | .yaml, text => (Yaml.Document.read? text).bind (·.run? ofNode)

/-- Reads a set of rules. -/
def read (format : Format) (text : String) : Except ReadError RuleSet :=
  match Draft.read? format text with
  | some d => d.build.mapError .rule
  | none => .error (.unreadable format)

/-- The notation of the document at a path, by the extension of the file. -/
def Format.ofPath (path : String) : Format :=
  match (Storage.Path.ofText path).fileName?.bind Storage.extension? with
  | some e => if e.toList.map Char.toLower = "json".toList then .json else .yaml
  | none => .yaml

end RuleSet

end CancellationPolicy
