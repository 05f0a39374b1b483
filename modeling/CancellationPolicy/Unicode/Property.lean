import CancellationPolicy.Unicode.Category
import CancellationPolicy.Unicode.Script
import CancellationPolicy.Unicode.Trait

/-! # Properties by name

A property of characters is asked for by one name, of a trait, a category or a
script, or by two, of a kind of property and a value of that kind. Names are
compared without regard to case, blanks, hyphens, underscores and a leading
`is`.
-/

namespace CancellationPolicy.Unicode

/-- Whether a character counts in a name. -/
def countsInName (c : Char) : Bool :=
  c.toNat < 128 && c != ' ' && c != '_' && c != '-'

/-- The form in which names are compared. The name `isc` is kept whole, since it
is no way to write `c`. -/
def looseName (name : List Char) : String :=
  let plain (cs : List Char) := (cs.filter countsInName).map Char.toLower
  match name with
  | i :: s :: rest =>
    if i.toLower = 'i' ∧ s.toLower = 's' then
      if plain rest = ['c'] then "isc" else String.ofList (plain rest)
    else String.ofList (plain (i :: s :: rest))
  | cs => String.ofList (plain cs)

/-- The characters with the property of a name. The short names of three
categories are also short for kinds of properties; the categories are meant. -/
def property? (name : List Char) : Option CharSet :=
  let n := looseName name
  match trait? n with
  | some s => some s
  | none =>
    match category? n with
    | some s => some s
    | none => script? n

/-- The characters for which a kind of property has a value. -/
def propertyValue? (kind value : List Char) : Option CharSet :=
  let k := looseName kind
  if k = "gc" ∨ k = "generalcategory" then category? (looseName value)
  else if k = "sc" ∨ k = "script" then script? (looseName value)
  else if k = "scx" ∨ k = "scriptextensions" then extendedScript? (looseName value)
  else none

end CancellationPolicy.Unicode
