import CancellationPolicy.Text.Split

/-! # Paths of fields

A path names a field by segments that dots separate. A path is valid if it has no
empty segment. One path lies above another if the other goes on behind it with a
dot, which is decided on the bytes of the two.
-/

namespace CancellationPolicy.Path

/-- The segments of a path. -/
def segments (path : String) : List String :=
  (Text.split (· == '.') path.toList).map String.ofList

/-- Whether every segment holds something; the empty path has one empty segment. -/
def isValid (path : String) : Bool := (segments path).all (!·.isEmpty)

/-- The UTF-8 bytes of a path. -/
def bytes (path : String) : List UInt8 := path.toByteArray.data.toList

/-- The byte of a dot. -/
def dotByte : UInt8 := 46

/-- Whether the first path lies strictly above the second: the second starts with
the first, and a dot follows. -/
def isAbove (upper lower : String) : Bool :=
  (bytes upper).isPrefixOf (bytes lower) && (bytes lower)[(bytes upper).length]? == some dotByte

/-- The last segments of fields that hold counts. -/
def countNames : List String :=
  ["nights", "percent", "days", "hours", "cutoff_days", "cutoff_hours"]

/-- Whether the field holds a count. -/
def isCount (path : String) : Bool :=
  match (segments path).getLast? with
  | some s => countNames.contains s
  | none => false

end CancellationPolicy.Path
