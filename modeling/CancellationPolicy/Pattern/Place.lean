import CancellationPolicy.Pattern.Basic
import CancellationPolicy.Unicode.Classes

/-! # Places of a text

A place stands between two characters of a text. It knows the character in
front, the text behind and its offset in bytes, which is all that a condition
can ask for.
-/

namespace CancellationPolicy

/-- A place between the characters of a text. -/
structure Place where
  /-- The character in front, unless the text starts here. -/
  before : Option Char
  /-- How many bytes are in front. -/
  offset : Nat
  /-- The text behind. -/
  rest : List Char
  deriving DecidableEq, Repr

namespace Place

/-- The place at which a text starts. -/
def ofText (cs : List Char) : Place := ⟨none, 0, cs⟩

/-- The place behind a character, with the text that follows it. -/
def step (p : Place) (c : Char) (cs : List Char) : Place := ⟨some c, p.offset + c.utf8Size, cs⟩

/-- The text up to the place with a later offset. -/
def textUpTo (p : Place) (stop : Nat) : List Char :=
  go p.offset p.rest
where
  /-- The characters of a text at an offset that start before the stop. -/
  go (at_ : Nat) : List Char → List Char
    | [] => []
    | c :: cs => if at_ < stop then c :: go (at_ + c.utf8Size) cs else []

/-! ### Conditions -/

/-- Whether a neighbouring character is a word character. -/
def isWordAt (ascii : Bool) : Option Char → Bool
  | none => false
  | some c => if ascii then c.isAlphanum || c == '_' else Unicode.isWord c

/-- Whether the word characters around a place meet a condition. -/
def meetsWord (edge : WordEdge) (before after : Bool) : Bool :=
  match edge with
  | .boundary => before != after
  | .noBoundary => before == after
  | .start => !before && after
  | .stop => before && !after
  | .startHalf => !before
  | .stopHalf => !after

/-- Whether a line starts between two characters. -/
def meetsLineStart (crlf : Bool) (before after : Option Char) : Bool :=
  before == none || before == some '\n' || (crlf && before == some '\r' && after != some '\n')

/-- Whether a line ends between two characters. -/
def meetsLineEnd (crlf : Bool) (before after : Option Char) : Bool :=
  after == none ||
    if crlf then after == some '\r' || (after == some '\n' && before != some '\r')
    else after == some '\n'

/-- Whether a place meets a condition. -/
def meets (p : Place) : Assertion → Bool
  | .textStart => p.before == none
  | .textEnd => p.rest.isEmpty
  | .lineStart crlf => meetsLineStart crlf p.before p.rest.head?
  | .lineEnd crlf => meetsLineEnd crlf p.before p.rest.head?
  | .word edge ascii => meetsWord edge (isWordAt ascii p.before) (isWordAt ascii p.rest.head?)

end Place

end CancellationPolicy
