/-! # Cursors

A cursor stands in a text that is read line by line: it knows the text behind
it, how many characters have been read, the line and the column.

Lines end in a line feed, a carriage return, both, the next-line character, or
one of the two separators of lines and paragraphs. The separators stand for
themselves, the others for a line feed.
-/

namespace CancellationPolicy.Yaml

/-! ### Characters -/

/-- Whether a character may occur in a document. -/
def isAllowed (c : Char) : Bool :=
  let n := c.toNat
  n = 0x09 || n = 0x0A || n = 0x0D || (0x20 ≤ n && n ≤ 0x7E) || n = 0x85 ||
    (0xA0 ≤ n && n ≤ 0xFFFD) || 0x10000 ≤ n

/-- Whether a character ends a line. -/
def isBreak (c : Char) : Bool :=
  c = '\n' || c = '\r' || c = '\x85' || c = '\u2028' || c = '\u2029'

/-- Whether a character is a space or a tab. -/
def isGap (c : Char) : Bool := c = ' ' || c = '\t'

/-- Whether a character may stand in the name of an anchor, a directive or a tag
handle. -/
def isNameChar (c : Char) : Bool := c.isAlphanum || c = '_' || c = '-'

/-- Whether a text starts with the end of a line, or is empty. -/
def atBreak : List Char → Bool
  | [] => true
  | c :: _ => isBreak c

/-- Whether a text starts with a space, a tab or the end of a line, or is
empty. -/
def atGap : List Char → Bool
  | [] => true
  | c :: _ => isGap c || isBreak c

/-- What the end of a line stands for. -/
def breakChar (c : Char) : Char := if c = '\u2028' ∨ c = '\u2029' then c else '\n'

/-! ### Cursors -/

/-- A place in a text. -/
structure Cursor where
  /-- The text behind the place. -/
  rest : List Char
  /-- How many characters are in front of it. -/
  index : Nat
  /-- How many lines are in front of it. -/
  line : Nat
  /-- How many characters of the line are in front of it. -/
  column : Nat

namespace Cursor

/-- The place at which a text starts. -/
def ofText (cs : List Char) : Cursor := ⟨cs, 0, 0, 0⟩

/-- The place behind a number of characters of the line. -/
def skip (c : Cursor) (n : Nat) : Cursor :=
  { c with rest := c.rest.drop n, index := c.index + n, column := c.column + n }

/-- The place behind the characters of the line that satisfy `p`, and the
characters. -/
def takeWhile (c : Cursor) (p : Char → Bool) : List Char × Cursor :=
  let cs := c.rest.takeWhile p
  (cs, c.skip cs.length)

/-- The place behind the characters of the line that satisfy `p`. -/
def skipWhile (c : Cursor) (p : Char → Bool) : Cursor := (c.takeWhile p).2

/-- What the end of the line stands for, and the start of the next line; none if
the line does not end here. -/
def nextLine? (c : Cursor) : Option (Char × Cursor) :=
  match c.rest with
  | [] => none
  | '\r' :: '\n' :: cs => some ('\n', ⟨cs, c.index + 2, c.line + 1, 0⟩)
  | b :: cs => if isBreak b then some (breakChar b, ⟨cs, c.index + 1, c.line + 1, 0⟩) else none

/-- Whether a mark of three characters that starts or ends a document stands
here, at the start of a line. -/
def atMark (c : Cursor) (mark : Char) : Bool :=
  c.column == 0 &&
    match c.rest with
    | x :: y :: z :: cs => x == mark && y == mark && z == mark && atGap cs
    | _ => false

/-- Whether a document starts or ends here. -/
def atDocumentMark (c : Cursor) : Bool := c.atMark '-' || c.atMark '.'

/-- The place behind a comment at the end of the line; the line must end there. -/
def skipLineRest? (c : Cursor) : Option Cursor :=
  let c := c.skipWhile isGap
  let c := match c.rest with
    | '#' :: _ => c.skipWhile (!isBreak ·)
    | _ => c
  if atBreak c.rest then
    match c.nextLine? with
    | some (_, c) => some c
    | none => some c
  else none

end Cursor

end CancellationPolicy.Yaml
