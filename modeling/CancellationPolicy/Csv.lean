/-! # Tables of values between commas

A row is written as its values between commas. A value that holds a comma, a quote
or a line end is written between quotes, and its quotes are doubled.
-/

namespace CancellationPolicy.Csv

/-- Whether a character has a meaning in a row. -/
def isMark (c : Char) : Bool := c = ',' || c = '"' || c = '\n' || c = '\r'

/-- A value as it is written. -/
def value (s : String) : String :=
  let cs := s.toList
  if cs.any isMark then
    String.ofList ('"' :: cs.flatMap (fun c => if c = '"' then ['"', '"'] else [c]) ++ ['"'])
  else s

/-- A row of several values, with the end of its line. -/
def row (values : List String) : String := ",".intercalate (values.map value) ++ "\n"

end CancellationPolicy.Csv
