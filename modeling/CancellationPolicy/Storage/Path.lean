import CancellationPolicy.Text.Split

/-! # Paths

A path names a place below a folder by segments between slashes. Empty segments
say nothing, except that a slash at the end asks for a folder.
-/

namespace CancellationPolicy.Storage

/-- A path, cut at its slashes. -/
structure Path where
  /-- The segments that say something. -/
  segments : List String
  /-- Whether it ends in a slash. -/
  endsInSlash : Bool
  deriving DecidableEq, Repr

namespace Path

/-- Cuts a text at its slashes. -/
def ofText (text : String) : Path :=
  let cs := text.toList
  { segments := ((Text.split (· = '/') cs).map String.ofList).filter (· ≠ "")
    endsInSlash := cs.getLast? = some '/' }

/-- Whether a segment says to stay. -/
def isHere (segment : String) : Bool := segment = "."

/-- Whether a segment says to go to the folder around. -/
def isAround (segment : String) : Bool := segment = ".."

/-- The segments that do not say to stay. -/
def steps (p : Path) : List String := p.segments.filter (!isHere ·)

/-- The name of the file at a path. -/
def fileName? (p : Path) : Option String := p.steps.getLast?

end Path

/-- The extension of a file name, behind its last point. A point at the front does
not count. -/
def extension? (name : String) : Option String :=
  if (name.toList.drop 1).contains '.' then
    some (String.ofList ((name.toList.reverse.takeWhile (· ≠ '.')).reverse))
  else none

end CancellationPolicy.Storage
