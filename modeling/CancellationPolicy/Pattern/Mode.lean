import CancellationPolicy.Pattern.Basic
import CancellationPolicy.Text.Blank
import CancellationPolicy.Unicode.CaseOrbit
import CancellationPolicy.Unicode.Classes

/-! # Modes of the pattern notation

How a pattern text is read depends on switches that the text itself can turn on
and off: whether case counts, where lines end, whether blanks count, and so on.

Without the switch for the whole character set, classes hold ASCII characters
only, and a class that would hold others is an error.
-/

namespace CancellationPolicy.Pattern

/-- The switches in force at a place of a pattern text. -/
structure Mode where
  /-- Letters stand for both cases. -/
  caseless : Bool
  /-- The anchors also match at the ends of lines. -/
  multiline : Bool
  /-- The dot also matches line ends. -/
  dotAll : Bool
  /-- Repetitions are reluctant unless marked otherwise. -/
  reluctant : Bool
  /-- Classes are those of the whole character set. -/
  unicode : Bool
  /-- Blanks and comments are passed over. -/
  spaced : Bool
  /-- A carriage return ends a line too. -/
  crlf : Bool
  deriving DecidableEq, Repr

namespace Mode

/-- The mode in which case counts. -/
def exact : Mode := ⟨false, false, false, false, true, false, false⟩

/-- The mode in which case does not count. -/
def anyCase : Mode := { exact with caseless := true }

/-- The mode with the switch of a letter set. -/
def set? (m : Mode) (letter : Char) (on : Bool) : Option Mode :=
  if letter = 'i' then some { m with caseless := on }
  else if letter = 'm' then some { m with multiline := on }
  else if letter = 's' then some { m with dotAll := on }
  else if letter = 'U' then some { m with reluctant := on }
  else if letter = 'u' then some { m with unicode := on }
  else if letter = 'x' then some { m with spaced := on }
  else if letter = 'R' then some { m with crlf := on }
  else none

/-- Reads switches up to a colon or a closing parenthesis, which stays. A letter
may stand once; a minus sign, which may stand once and not last, turns off those
behind it. The switches read so far are `seen`. -/
def switches? (on : Bool) (seen : List Char) (m : Mode) : List Char → Option (Mode × List Char)
  | [] => none
  | c :: cs =>
    if c = ':' ∨ c = ')' then if seen.head? = some '-' then none else some (m, c :: cs)
    else if seen.contains c then none
    else if c = '-' then switches? false (c :: seen) m cs
    else
      match m.set? c on with
      | some m => switches? on (c :: seen) m cs
      | none => none

/-! ### Blanks -/

/-- The text behind blanks and comments; a comment goes on to the end of its
line. -/
def skipBlanks : (inComment : Bool) → List Char → List Char
  | _, [] => []
  | true, c :: cs => skipBlanks (c != '\n') cs
  | false, c :: cs =>
    if c = '#' then skipBlanks true cs
    else if isBlank c then skipBlanks false cs
    else c :: cs

/-- The text behind what the mode passes over. -/
def skip (m : Mode) (cs : List Char) : List Char := if m.spaced then skipBlanks false cs else cs

/-- The character that follows, seen past blanks and the mark of a comment. -/
def peek? (m : Mode) (cs : List Char) : Option Char :=
  if m.spaced then
    match cs.dropWhile isBlank with
    | '#' :: rest => (rest.dropWhile isBlank).head?
    | rest => rest.head?
  else cs.head?

/-! ### Classes -/

/-- The ASCII letters of the other case added to a set. -/
def asciiCaseClosed (s : CharSet) : CharSet :=
  let letters := (List.range 26).flatMap fun i =>
    (if s.contains (65 + i) then [97 + i] else []) ++ (if s.contains (97 + i) then [65 + i] else [])
  s ∪ CharSet.ofPoints letters

/-- A set with both cases of its members, if case does not count. -/
def fold (m : Mode) (s : CharSet) : CharSet :=
  if m.caseless then if m.unicode then s.caseClosed else asciiCaseClosed s else s

/-- A class, negated if asked for. -/
def class? (m : Mode) (negated : Bool) (s : CharSet) : Option CharSet :=
  let s := if negated then s.complement else s
  if m.unicode || s.isAscii then some s else none

/-- The characters that a literal stands for. -/
def literal (m : Mode) (c : Char) : CharSet :=
  if m.caseless then
    if m.unicode then CharSet.ofPoints (c.toNat :: Unicode.casePartners c.toNat)
    else asciiCaseClosed (CharSet.single c.toNat)
  else CharSet.single c.toNat

/-- Decimal digits. -/
def digits (m : Mode) : CharSet := if m.unicode then Unicode.digits else CharSet.range 48 57

/-- Blanks. -/
def blanks (m : Mode) : CharSet :=
  if m.unicode then CancellationPolicy.blanks else CharSet.ofRanges [(9, 13), (32, 32)]

/-- Word characters. -/
def words (m : Mode) : CharSet :=
  if m.unicode then Unicode.wordChars
  else CharSet.ofRanges [(48, 57), (65, 90), (95, 95), (97, 122)]

/-- What the dot stands for. -/
def dot? (m : Mode) : Option CharSet :=
  if !m.unicode then none
  else if m.dotAll then some CharSet.scalars
  else some (CharSet.ofPoints (if m.crlf then [10, 13] else [10])).complement

end Mode

end CancellationPolicy.Pattern
