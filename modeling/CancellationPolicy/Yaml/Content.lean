import CancellationPolicy.Yaml.Node
import CancellationPolicy.Yaml.Resolution

/-! # Content

What is asked of a node decides what it is read as: a text, a whole number, a
list, the members of a structure or a value of any shape. A reference is followed
where its content is asked for. How many references a reading may follow is limited
(`Document.run?`), and so is how deep the lists and mappings that it enters may
be nested (`Following.nesting`).
-/

namespace CancellationPolicy.Yaml

/-- A reading of a document, with the number of references that it may still
follow. -/
abbrev Following (α : Type) := ReaderT Document (StateT Nat Option) α

namespace Following

/-- How deep lists and mappings that are read may be nested. -/
def nesting : Nat := 128

/-- The node that a reference means; every other node is itself. -/
def target : Node → Following Node
  | .reference n => do
    match ← get with
    | 0 => failure
    | k + 1 =>
      set k
      match (← read).numbered.find? (·.1 = n) with
      | some (_, x) => return x
      | none => failure
  | x => return x

/-- Whether a node is a plain scalar without text, which stands for a missing list
or mapping. -/
def isMissing : Node → Bool
  | .scalar _ .plain text => text.isEmpty
  | _ => false

/-- A text. -/
def text (x : Node) : Following String := do
  match ← target x with
  | .scalar _ _ text => return text
  | _ => failure

/-- A whole number within bounds, in a plain scalar or in a block that is tagged as
one. -/
def intWithin (lo hi : Int) (x : Node) : Following Int := do
  match ← target x with
  | .scalar tag style text =>
    if style = .plain ∨ (style = .literal ∧ tag = some (standardTag "int")) then
      match whole? text with
      | some n => if lo ≤ n ∧ n ≤ hi then return n else failure
      | none => failure
    else failure
  | _ => failure

/-- A list of nodes. -/
def list {α : Type} (decode : Node → Following α) (x : Node) : Following (List α) := do
  match ← target x with
  | .sequence _ xs => xs.mapM decode
  | x => if isMissing x then return [] else failure

/-- The members under the given names. Names that are not asked for are passed
over with what is under them, and a repeated one is an error. -/
def fields (names : List String) (x : Node) : Following (List (String × Node)) := do
  match ← target x with
  | .mapping _ es =>
    es.foldlM (fun found e => do
      let k ← text e.1
      if !names.contains k then return found
      else if found.any (·.1 = k) then failure
      else return found ++ [(k, e.2)]) []
  | x => if isMissing x then return [] else failure

/-- A member that must be there. -/
def required {α : Type} (name : String) (fields : List (String × Node))
    (decode : Node → Following α) : Following α :=
  match Keyed.find? name fields with
  | some x => decode x
  | none => failure

/-- A member that may be missing. -/
def optional {α : Type} (name : String) (fields : List (String × Node)) (default : α)
    (decode : Node → Following α) : Following α :=
  match Keyed.find? name fields with
  | some x => decode x
  | none => return default

/-- A value of any shape whose lists and mappings are nested at most as deep as
`levels` says. Of two entries of a mapping under one text the later stays. A
structure with a local tag is an error. -/
def value : (levels : Nat) → Node → Following Json
  | levels, x => do
    match ← target x, levels with
    | .scalar tag style text, _ =>
      match scalarValue? tag style text with
      | some v => return v
      | none => failure
    | .sequence tag xs, levels + 1 =>
      if tag.any isLocalTag then failure else return .array (← xs.mapM (value levels))
    | .mapping tag es, levels + 1 =>
      if tag.any isLocalTag then failure
      else
        return .ofMembers (← es.mapM fun e => do
          let k ← text e.1
          let v ← value levels e.2
          return (k, v))
    | _, _ => failure

/-- A value that may be missing. A plain scalar is missing if it has no tag and no
text, or a text of the missing value without tag or with the tag of it; with
that tag every other text is an error. -/
def nullable {α : Type} (decode : Node → Following α) (x : Node) : Following (Option α) := do
  match ← target x with
  | .scalar none .plain text =>
    if text.isEmpty || isNull text then return none
    else return some (← decode (.scalar none .plain text))
  | .scalar (some tag) .plain text =>
    if tag = standardTag "null" then if isNull text then return none else failure
    else return some (← decode (.scalar (some tag) .plain text))
  | x => return some (← decode x)

end Following

/-- How many references a reading may follow for every part of the document. -/
def followsPerPart : Nat := 100

/-- Reads the content of a document. -/
def Document.run? {α : Type} (d : Document) (decode : Node → Following α) : Option α :=
  (((decode d.root).run d).run (followsPerPart * d.root.size)).map Prod.fst

end CancellationPolicy.Yaml
