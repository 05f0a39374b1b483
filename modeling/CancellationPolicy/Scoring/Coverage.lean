import CancellationPolicy.Floating.Binary
import CancellationPolicy.Span
import CancellationPolicy.Text.Phrases

/-! # Coverage

The coverage of a text is the part of its length that matches account for. The
length may be that of the whole text or its filtered length, in which phrases
and characters to be passed over do not count.

Scores are computed in any type with the usual operations; programs use
`Single`, and laws can be stated over exact numbers.
-/

namespace CancellationPolicy

instance {f : Binary.Format} : NatCast (Binary f) := ⟨Binary.ofNat f⟩

/-- The part of a length that spans cover together; zero without spans or
length. It exceeds one where spans lie outside. -/
def coverage {α : Type} [Zero α] [Div α] [NatCast α] (spans : List Span) (length : Nat) : α :=
  if spans.isEmpty || length == 0 then 0 else (Span.covered spans : α) / (length : α)

/-- The length in bytes of a text without phrases and without the ignorable
characters, blanks squeezed. -/
def filteredLength (text ignorable : String) (phrases : List String) : Nat :=
  let kept := (Text.withoutPhrases phrases text.toList).filter (!ignorable.toList.contains ·)
  (String.ofList (Text.squeeze kept)).utf8ByteSize

end CancellationPolicy
