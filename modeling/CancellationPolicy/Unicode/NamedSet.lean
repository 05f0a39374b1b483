import CancellationPolicy.Unicode.CharSet

/-! # Sets of characters by name

A table of the character database lists sets under their names, long and short.
Names are in lower case and without separators. The members of a set are
written as the distances between its switches.
-/

namespace CancellationPolicy.Unicode

/-- A set of characters with its names. -/
structure NamedSet where
  /-- The names, in lower case and without separators. -/
  names : List String
  /-- The distances between the switches of the set. -/
  distances : String
  deriving Repr

/-- The set under a name. -/
def NamedSet.find? (name : String) (table : List NamedSet) : Option CharSet :=
  (table.find? (·.names.contains name)).map fun s => CharSet.ofDistances s.distances

end CancellationPolicy.Unicode
