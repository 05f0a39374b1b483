import CancellationPolicy.Keyed
import CancellationPolicy.Text.Split
import CancellationPolicy.Value

/-! # Expressions that fill fields

An expression is a row of terms that the word `or` separates; its value is that
of the first term that has one. A term may refer to parts of a match by `$name`.
All references are replaced at once, and a term with a reference to a part that
is missing or empty has no value. The replaced text is then

- `ceil(X)` or `ceil(X/Y)`, in any case: the least integer not below the number
  or the quotient, and no value if an operand is no amount;
- an amount: a number;
- anything else that is not blank: a text.
-/

namespace CancellationPolicy

/-- The named parts of a match. -/
abbrev Captures := Keyed String

/-- A row of alternative terms. -/
structure Expression where
  /-- The terms, in the order in which they are tried. -/
  terms : List String
  deriving DecidableEq, Repr

namespace Expression

/-! ### Terms -/

/-- Whether two characters agree up to the case of ASCII letters. -/
def sameLetter (c d : Char) : Bool := c.toLower == d.toLower

/-- The text behind a separator at the front: blanks, the word `or` and blanks. -/
def separator? (cs : List Char) : Option (List Char) :=
  match cs with
  | [] => none
  | b :: rest =>
    if isBlank b then
      match Text.trimStart rest with
      | o :: r :: b' :: rest =>
        if sameLetter o 'o' && sameLetter r 'r' && isBlank b' then some (Text.trimStart rest)
        else none
      | _ => none
    else none

/-- Cuts a text at its separators, from left to right; `fuel` is at least the
length of the text. -/
def splitTerms : (fuel : Nat) → List Char → List (List Char)
  | 0, cs => [cs]
  | _ + 1, [] => [[]]
  | fuel + 1, c :: cs =>
    match separator? (c :: cs) with
    | some rest => [] :: splitTerms fuel rest
    | none =>
      match splitTerms fuel cs with
      | [] => [[c]]
      | w :: ws => (c :: w) :: ws

/-- Reads an expression; every text is one. -/
def parse (template : String) : Expression :=
  let cs := Text.trim template.toList
  ⟨(splitTerms cs.length cs).map fun t => String.ofList (Text.trim t)⟩

/-- The terms, joined by the separator in its plainest form. -/
def display (e : Expression) : String := " or ".intercalate e.terms

/-! ### References -/

/-- A part of a term. -/
inductive Piece where
  /-- A character that stands for itself. -/
  | char (c : Char)
  /-- A reference to a part of a match. -/
  | reference (name : String)
  deriving DecidableEq, Repr

/-- Whether a name may start with the character. -/
def startsName (c : Char) : Bool := c.isAlpha || c == '_'

/-- Whether a name may go on with the character. -/
def continuesName (c : Char) : Bool := c.isAlphanum || c == '_'

/-- The pieces of a text behind a dollar sign and the name `acc`, in reverse, or
not behind a dollar sign. -/
def piecesFrom : Option (List Char) → List Char → List Piece
  | none, [] => []
  | some [], [] => [.char '$']
  | some acc, [] => [.reference (String.ofList acc.reverse)]
  | none, c :: cs => if c = '$' then piecesFrom (some []) cs else .char c :: piecesFrom none cs
  | some [], c :: cs =>
    if startsName c then piecesFrom (some [c]) cs
    else if c = '$' then .char '$' :: piecesFrom (some []) cs
    else .char '$' :: .char c :: piecesFrom none cs
  | some acc, c :: cs =>
    if continuesName c then piecesFrom (some (c :: acc)) cs
    else if c = '$' then .reference (String.ofList acc.reverse) :: piecesFrom (some []) cs
    else .reference (String.ofList acc.reverse) :: .char c :: piecesFrom none cs

/-- The characters and references of a term; a reference takes the longest name
that follows its dollar sign. -/
def pieces (term : String) : List Piece := piecesFrom none term.toList

/-- What a piece stands for; a reference to a missing or empty part stands for
nothing. -/
def Piece.value? (captures : Captures) : Piece → Option (List Char)
  | char c => some [c]
  | reference name =>
    match Keyed.find? name captures with
    | some s => if s.isEmpty then none else some s.toList
    | none => none

/-- The term with all references replaced. -/
def substitute? (term : String) (captures : Captures) : Option (List Char) :=
  ((pieces term).mapM (Piece.value? captures)).map List.flatten

/-! ### Values -/

/-- What stands between the parentheses of a call of `ceil` that is the whole
text: some text without closing parenthesis. -/
def ceilOperand? : List Char → Option (List Char)
  | c :: e :: i :: l :: '(' :: rest =>
    if sameLetter c 'c' && sameLetter e 'e' && sameLetter i 'i' && sameLetter l 'l' then
      match rest.reverse with
      | ')' :: inner =>
        if inner.isEmpty || inner.contains ')' then none else some (Text.trim inner.reverse)
      | _ => none
    else none
  | _ => none

/-- The least integer not below a number or a quotient of two. -/
def ceilValue? (operand : List Char) : Option Decimal :=
  match (Text.split (· == '/') operand).map String.ofList with
  | [x] => (Amount.parse? x).map Decimal.ceil
  | [x, y] =>
    match Amount.parse? x, Amount.parse? y with
    | some x, some y => (x.div? y).map Decimal.ceil
    | _, _ => none
  | _ => none

/-- The value of a text without references. -/
def literalValue? (cs : List Char) : Option Value :=
  let s := Text.trim cs
  match ceilOperand? s with
  | some operand => (ceilValue? operand).map .number
  | none =>
    match Amount.parse? (String.ofList s) with
    | some n => some (.number n)
    | none => if s.isEmpty then none else some (.text (String.ofList s))

/-- The value of a term. -/
def termValue? (captures : Captures) (term : String) : Option Value :=
  match substitute? term captures with
  | some cs => literalValue? cs
  | none => none

/-- The value of the first term that has one that is not empty. -/
def resolve? (e : Expression) (captures : Captures) : Option Value :=
  (e.terms.filterMap (termValue? captures)).find? (!·.isEmpty)

end Expression

end CancellationPolicy
