import CancellationPolicy.Unicode.CharSet

/-! # Patterns

A pattern describes texts: characters of a set, conditions on a place of the
text, groups whose text is kept, and the ways to join and to repeat patterns.
Where a pattern matches in several ways, one way is preferred: the earlier of
two alternatives, and of a repetition the longer or the shorter one.
-/

namespace CancellationPolicy

/-- A condition on the word characters around a place. -/
inductive WordEdge where
  /-- A word starts or ends. -/
  | boundary
  /-- No word starts or ends. -/
  | noBoundary
  /-- A word starts. -/
  | start
  /-- A word ends. -/
  | stop
  /-- No word character is in front. -/
  | startHalf
  /-- No word character follows. -/
  | stopHalf
  deriving DecidableEq, Repr

/-- A condition on a place of a text. -/
inductive Assertion where
  /-- The text starts. -/
  | textStart
  /-- The text ends. -/
  | textEnd
  /-- A line starts; lines may end in a carriage return and a line feed. -/
  | lineStart (crlf : Bool)
  /-- A line ends. -/
  | lineEnd (crlf : Bool)
  /-- A condition on words, of ASCII characters or of all. -/
  | word (edge : WordEdge) (ascii : Bool)
  deriving DecidableEq, Repr

/-- A description of texts, with a preference among the ways to match. -/
inductive Pattern where
  /-- The empty text. -/
  | empty
  /-- One character of a set. -/
  | chars (set : CharSet)
  /-- The empty text at a place that meets a condition. -/
  | assertion (condition : Assertion)
  /-- A text that is kept, under a name if there is one. -/
  | group (name : Option String) (body : Pattern)
  /-- One pattern behind another. -/
  | cat (first second : Pattern)
  /-- Either pattern, the first preferred. -/
  | alt (first second : Pattern)
  /-- A pattern from `least` to `most` times, or without an upper bound; many
  times preferred if it is greedy, few otherwise. -/
  | repeated (least : Nat) (most : Option Nat) (greedy : Bool) (body : Pattern)
  deriving DecidableEq, Repr

namespace Pattern

instance : Inhabited Pattern := ⟨empty⟩

/-- The patterns one behind another. -/
def row : List Pattern → Pattern
  | [] => empty
  | p :: ps => ps.foldl cat p

/-- Any of the patterns, the earlier preferred. -/
def oneOf : List Pattern → Pattern
  | [] => chars ∅
  | p :: ps => ps.foldl alt p

/-- The pattern of one character. -/
def char (c : Char) : Pattern := chars (CharSet.single c.toNat)

/-- The pattern of one text. -/
def text (s : List Char) : Pattern := row (s.map char)

/-- Whether the pattern matches nothing but the empty text. -/
def isZeroWidth : Pattern → Bool
  | empty => true
  | chars _ => false
  | assertion _ => true
  | group _ p => p.isZeroWidth
  | cat p q => p.isZeroWidth && q.isZeroWidth
  | alt p q => p.isZeroWidth && q.isZeroWidth
  | repeated _ _ _ p => p.isZeroWidth

/-- Whether the pattern may match the empty text. -/
def isNullable : Pattern → Bool
  | empty => true
  | chars _ => false
  | assertion _ => true
  | group _ p => p.isNullable
  | cat p q => p.isNullable && q.isNullable
  | alt p q => p.isNullable || q.isNullable
  | repeated least _ _ p => least == 0 || p.isNullable

/-- Repeats a pattern. A pattern that matches only the empty text needs no second
round. -/
def times (least : Nat) (most : Option Nat) (greedy : Bool) (body : Pattern) : Pattern :=
  let bounds := if body.isZeroWidth then (min least 1, some (min (most.getD 1) 1)) else (least, most)
  match bounds with
  | (_, some 0) => empty
  | (1, some 1) => body
  | (least, most) => repeated least most greedy body

end Pattern

end CancellationPolicy
