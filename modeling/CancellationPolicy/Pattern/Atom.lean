import CancellationPolicy.Pattern.Mode
import CancellationPolicy.Unicode.Property

/-! # Escapes

An atom is the smallest part of a pattern text: a character that stands for
itself, a class, or a condition. `escape?` reads the atom behind a backslash.
-/

namespace CancellationPolicy.Pattern

/-- The smallest part of a pattern text. -/
inductive Atom where
  /-- A character; `octet` says that it was written as two digits. -/
  | literal (c : Char) (octet : Bool)
  /-- A class. -/
  | members (set : CharSet)
  /-- A condition. -/
  | condition (a : Assertion)

namespace Atom

/-- Characters with a meaning of their own in pattern texts. -/
def metaChars : List Char := "\\.+*?()|[]\x7b\x7d^$#&-~".toList

/-- Whether a backslash makes the character stand for itself. -/
def isEscapable (c : Char) : Bool :=
  metaChars.contains c || (c.toNat < 128 && !c.isAlphanum && c != '<' && c != '>')

/-- The value of a hexadecimal digit. -/
def hexValue? (c : Char) : Option Nat :=
  if c.isDigit then some (c.toNat - 48)
  else if 'a' ≤ c ∧ c ≤ 'f' then some (c.toNat - 87)
  else if 'A' ≤ c ∧ c ≤ 'F' then some (c.toNat - 55)
  else none

/-- The character with a number. -/
def charOf? (n : Nat) : Option Char := if n.isValidChar then some (Char.ofNat n) else none

/-- Reads a fixed count of hexadecimal digits. -/
def hexDigits? (m : Mode) : (count : Nat) → (value : Nat) → List Char → Option (Nat × List Char)
  | 0, v, cs => some (v, cs)
  | _ + 1, _, [] => none
  | n + 1, v, c :: cs =>
    match hexValue? c with
    | some d => hexDigits? m n (16 * v + d) (m.skip cs)
    | none => none

/-- Reads hexadecimal digits up to a closing brace; `fuel` bounds their count. -/
def hexBraced? (m : Mode) :
    (fuel : Nat) → (value : Option Nat) → List Char → Option (Nat × List Char)
  | 0, _, _ => none
  | fuel + 1, v, cs =>
    match m.skip cs with
    | [] => none
    | '}' :: rest => v.map fun v => (v, m.skip rest)
    | c :: rest =>
      match hexValue? c with
      | some d => hexBraced? m fuel (some (16 * v.getD 0 + d)) rest
      | none => none

/-- Reads the number of a character behind the letter that announces it. -/
def hex? (m : Mode) (count : Nat) (cs : List Char) : Option (Atom × List Char) :=
  match m.skip cs with
  | '{' :: rest =>
    match hexBraced? m (rest.length + 1) none rest with
    | some (v, rest) => (charOf? v).map fun c => (.literal c false, rest)
    | none => none
  | rest =>
    match hexDigits? m count 0 rest with
    | some (v, rest) => (charOf? v).map fun c => (.literal c (count == 2), rest)
    | none => none

/-- Reads the name of a property up to a closing brace; `fuel` bounds its
length. -/
def propertyName? (m : Mode) : (fuel : Nat) → List Char → Option (List Char × List Char)
  | 0, _ => none
  | fuel + 1, cs =>
    match m.skip cs with
    | [] => none
    | '}' :: rest => some ([], rest)
    | c :: rest => (propertyName? m fuel rest).map fun (name, rest) => (c :: name, rest)

/-- Cuts a name at the first place where `sep` stands. -/
def cutAt? (sep : List Char) : List Char → Option (List Char × List Char)
  | [] => none
  | c :: cs =>
    if sep.isPrefixOf (c :: cs) then some ([], (c :: cs).drop sep.length)
    else (cutAt? sep cs).map fun (a, b) => (c :: a, b)

/-- The characters of a property as it is named between braces. -/
def namedProperty? (name : List Char) : Option CharSet :=
  match (cutAt? ['!', '='] name).or ((cutAt? [':'] name).or (cutAt? ['='] name)) with
  | some (kind, value) => Unicode.propertyValue? kind value
  | none => Unicode.property? name

/-- Reads the class of a property behind the letter that announces it. -/
def property? (m : Mode) (negated : Bool) (cs : List Char) : Option (Atom × List Char) :=
  let found : Option (CharSet × List Char) :=
    match m.skip cs with
    | [] => none
    | '{' :: rest =>
      match propertyName? m (rest.length + 1) rest with
      | some (name, rest) => (namedProperty? name).map fun s => (s, rest)
      | none => none
    | c :: rest => (Unicode.property? [c]).map fun s => (s, m.skip rest)
  match found with
  | some (s, rest) =>
    if m.unicode then (m.class? negated (m.fold s)).map fun s => (.members s, rest) else none
  | none => none

/-- The condition of a name. -/
def wordEdge? (name : String) : Option WordEdge :=
  if name = "start" then some .start
  else if name = "end" then some .stop
  else if name = "start-half" then some .startHalf
  else if name = "end-half" then some .stopHalf
  else none

/-- Whether a character may stand in the name of a condition. -/
def isEdgeChar (c : Char) : Bool := c.isAlpha || c == '-'

/-- Reads the name of a condition up to its closing brace; `fuel` bounds its
length. -/
def edgeName? (m : Mode) : (fuel : Nat) → List Char → Option (List Char × List Char)
  | 0, _ => none
  | _ + 1, [] => none
  | fuel + 1, c :: cs =>
    if c = '}' then some ([], cs)
    else if isEdgeChar c then (edgeName? m fuel (m.skip cs)).map fun (n, rest) => (c :: n, rest)
    else none

/-- Reads what follows the letter of a word boundary: a name in braces, or
nothing, a brace then starting a repetition. -/
def boundary? (m : Mode) (cs : List Char) : Option (Atom × List Char) :=
  let plain : Atom := .condition (.word .boundary (!m.unicode))
  match cs with
  | '{' :: rest =>
    match m.skip rest with
    | [] => none
    | c :: rest =>
      if isEdgeChar c then
        match edgeName? m (rest.length + 2) (c :: rest) with
        | some (name, rest) =>
          (wordEdge? (String.ofList name)).map fun e => (.condition (.word e (!m.unicode)), rest)
        | none => none
      else some (plain, cs)
  | cs => some (plain, cs)

/-- Reads the atom behind a backslash. -/
def escape? (m : Mode) : List Char → Option (Atom × List Char)
  | [] => none
  | c :: cs =>
    -- what a letter can mean
    let literal (d : Char) : Option (Atom × List Char) := some (.literal d false, cs)
    let members (negated : Bool) (s : CharSet) : Option (Atom × List Char) :=
      (m.class? negated s).map fun s => (.members s, cs)
    let condition (a : Assertion) : Option (Atom × List Char) := some (.condition a, cs)
    let word (e : WordEdge) : Option (Atom × List Char) := condition (.word e (!m.unicode))
    match c with
    | 'x' => hex? m 2 cs
    | 'u' => hex? m 4 cs
    | 'U' => hex? m 8 cs
    | 'p' => property? m false cs
    | 'P' => property? m true cs
    | 'd' => members false m.digits
    | 'D' => members true m.digits
    | 's' => members false m.blanks
    | 'S' => members true m.blanks
    | 'w' => members false m.words
    | 'W' => members true m.words
    | 'a' => literal '\x07'
    | 'f' => literal '\x0c'
    | 't' => literal '\t'
    | 'n' => literal '\n'
    | 'r' => literal '\r'
    | 'v' => literal '\x0b'
    | 'A' => condition .textStart
    | 'z' => condition .textEnd
    | 'b' => boundary? m cs
    | 'B' => word .noBoundary
    | '<' => word .start
    | '>' => word .stop
    | c => if isEscapable c then literal c else none

/-- The pattern of an atom. A number of two digits stands for a byte where
classes are those of ASCII, and only an ASCII byte is a character. -/
def pattern? (m : Mode) : Atom → Option Pattern
  | literal c octet =>
    if !m.unicode && octet && c.toNat ≥ 128 then none else some (.chars (m.literal c))
  | members s => some (.chars s)
  | condition a => some (.assertion a)

end Atom

end CancellationPolicy.Pattern
