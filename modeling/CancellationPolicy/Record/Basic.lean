import CancellationPolicy.Record.Path
import CancellationPolicy.Value

/-! # Policy records

A record holds the values of a policy's fields under their paths. It is only
changed by `Record.write`, which keeps the first value of every path, refuses
paths that lie above or below a path in use, and reads texts at count fields as
numbers. A text at a count field that is no count is kept, and the path is
flagged as malformed. The flags are a set of their own, beside the values.
-/

namespace CancellationPolicy

/-- The fields of a policy. -/
structure Record where
  /-- The values under their paths. -/
  leaves : Keyed Value
  /-- The paths of the count fields that were given a text that is no count. -/
  flags : Keyed Unit
  deriving DecidableEq

/-- What became of a write. -/
inductive Record.Outcome where
  /-- The value was stored. -/
  | written
  /-- The path holds a value already. -/
  | occupied
  /-- The path lies above or below a path in use. -/
  | conflict
  /-- The value carried nothing. -/
  | empty
  /-- The path is not valid. -/
  | invalidPath
  deriving DecidableEq, Repr

namespace Record

/-- The record without fields. -/
def new : Record := ⟨[], []⟩

instance : Inhabited Record := ⟨new⟩

/-! ### Writing -/

/-- The value that is stored for a value written at a path: at a count field, the
number that a text stands for. -/
def coerce (path : String) : Value → Value
  | .text s =>
    if Path.isCount path then
      match Count.parse? s with
      | some n => .number n
      | none => .text s
    else .text s
  | v => v

/-- Whether a value written at a path is a text where a count should be. -/
def isGarbled (path : String) : Value → Bool
  | .text s => Path.isCount path && (Count.parse? s).isNone
  | .number _ => false

/-- Whether a path lies above or below a path in use. -/
def collides (r : Record) (path : String) : Bool :=
  r.leaves.any fun l => Path.isAbove l.1 path || Path.isAbove path l.1

/-- What becomes of a write. -/
def outcome (r : Record) (path : String) (value : Value) : Outcome :=
  if !Path.isValid path then .invalidPath
  else if value.isEmpty then .empty
  else if Keyed.has path r.leaves then .occupied
  else if r.collides path then .conflict
  else .written

/-- Stores a value at a path, as a count if it should be one, and flags a path whose
value is not. -/
def store (r : Record) (path : String) (value : Value) : Record :=
  { leaves := Keyed.insert path (coerce path value) r.leaves
    flags := if isGarbled path value then Keyed.insert path () r.flags else r.flags }

/-- Writes a value at a path; the record changes only if the outcome is
`written`. -/
def write (r : Record) (path : String) (value : Value) : Record :=
  match r.outcome path value with
  | .written => r.store path value
  | _ => r

/-- Writes values in order. -/
def writeAll (r : Record) (fields : List (String × Value)) : Record :=
  fields.foldl (fun r f => r.write f.1 f.2) r

theorem writeAll_append (r : Record) (fields more : List (String × Value)) :
    r.writeAll (fields ++ more) = (r.writeAll fields).writeAll more :=
  List.foldl_append

/-! ### Reading -/

/-- The value at a path. -/
def get? (r : Record) (path : String) : Option Value := Keyed.find? path r.leaves

/-- The text at a path, if there is one. -/
def text? (r : Record) (path : String) : Option String := (r.get? path).bind Value.text?

/-- The number at a path, if there is one. -/
def number? (r : Record) (path : String) : Option Decimal := (r.get? path).bind Value.number?

/-- Whether a path holds something. -/
def isPresent (r : Record) (path : String) : Bool :=
  match r.get? path with
  | some v => !v.isEmpty
  | none => false

/-- How many fields the record has. -/
def size (r : Record) : Nat := r.leaves.length

/-- Whether the record has no fields. -/
def isEmpty (r : Record) : Bool := r.leaves.isEmpty

/-- The paths flagged as malformed, in increasing order. -/
def malformed (r : Record) : List String := Keyed.names r.flags

/-- Whether some path is flagged as malformed. -/
def hasMalformed (r : Record) : Bool := !r.flags.isEmpty

/-! ### Documents -/

/-- Puts a value under nested names. Where a name is taken by a value that is no
object, nothing changes. -/
def place (v : Json) : List String → Keyed Json → Keyed Json
  | [], ms => ms
  | [k], ms => Keyed.insert k v ms
  | k :: ks, ms =>
    match Keyed.find? k ms with
    | none => Keyed.insert k (.object (place v ks [])) ms
    | some (.object inner) => Keyed.insert k (.object (place v ks inner)) ms
    | some _ => ms

/-- The record as nested objects, one level to a segment. -/
def toJson (r : Record) : Json :=
  .object (r.leaves.foldl (fun ms l => place l.2.toJson (Path.segments l.1) ms) [])

end Record

end CancellationPolicy
