import CancellationPolicy.Json.Basic
import CancellationPolicy.Yaml.Scalar

/-! # Resolution

What a scalar stands for as a value of a document. A scalar without tag that is
written plain is the missing value, a truth value, a whole number or a number if
its text has one of their forms. Every other scalar without tag is a text.

A whole number that does not fit 64 bits but fits twice as many is an error, and
a larger one is a number. Digits that start with a needless zero are a text.
-/

namespace CancellationPolicy.Yaml

/-! ### Forms -/

/-- Whether a text stands for the missing value. -/
def isNull (text : String) : Bool :=
  text = "null" || text = "Null" || text = "NULL" || text = "~"

/-- The truth value that a text stands for. -/
def truth? (text : String) : Option Bool :=
  if text = "true" ∨ text = "True" ∨ text = "TRUE" then some true
  else if text = "false" ∨ text = "False" ∨ text = "FALSE" then some false
  else none

/-- The natural that digits of a base stand for. -/
def natural? (base : Nat) (ds : List Char) : Option Nat :=
  if ds.isEmpty then none
  else
    ds.foldlM (fun n d =>
      match hexValue? d with
      | some v => if v < base then some (base * n + v) else none
      | none => none) 0

/-- Whether decimal digits start with a needless zero. -/
def hasNeedlessZero : List Char → Bool
  | '0' :: d :: ds => (d :: ds).all Char.isDigit
  | _ => false

/-- The text behind its sign, if it has one. -/
def dropSign : List Char → List Char
  | '+' :: cs => cs
  | '-' :: cs => cs
  | cs => cs

/-- The natural that a text without sign stands for, in decimal or with the mark
of another base in front. -/
def unsigned? : List Char → Option Nat
  | '0' :: 'x' :: ds => natural? 16 ds
  | '0' :: 'o' :: ds => natural? 8 ds
  | '0' :: 'b' :: ds => natural? 2 ds
  | ds => if hasNeedlessZero ds then none else natural? 10 ds

/-- The whole number that a text stands for: whether it has a minus sign, and its
size. -/
def signed? : List Char → Option (Bool × Nat)
  | '+' :: cs => (unsigned? cs).map fun n => (false, n)
  | '-' :: cs => (unsigned? cs).map fun n => (true, n)
  | cs => (unsigned? cs).map fun n => (false, n)

/-- The whole number that a text stands for. -/
def whole? (text : String) : Option Int :=
  (signed? text.toList).map fun (minus, n) => if minus then -(n : Int) else n

/-- The number nearest to `m * 10 ^ e` for a natural `m` of at most `digits`
digits. Exponents that no number of 64 bits can have need not be evaluated. -/
def doubleOfDigits (negative : Bool) (m digits : Nat) (e : Int) : Double :=
  if m = 0 ∨ digits + e < -400 then .zero .double negative
  else if 400 < e then .infinity negative
  else .round .double negative (m * Nat.pow 10 e.toNat) (Nat.pow 10 (-e).toNat)

/-- The exponent at the end of a text, zero if there is none. -/
def exponent? : List Char → Option Int
  | [] => some 0
  | c :: cs =>
    if c = 'e' ∨ c = 'E' then
      match cs with
      | '+' :: ds => (natural? 10 ds).map Int.ofNat
      | '-' :: ds => (natural? 10 ds).map fun n => -(n : Int)
      | ds => (natural? 10 ds).map Int.ofNat
    else none

/-- The number that a text without sign stands for: digits, of which some may
stand behind a point, and an exponent. -/
def unsignedDouble? (negative : Bool) (cs : List Char) : Option Double :=
  let whole := cs.takeWhile Char.isDigit
  let rest := cs.drop whole.length
  let (fraction, rest) :=
    match rest with
    | '.' :: rest => (rest.takeWhile Char.isDigit, rest.dropWhile Char.isDigit)
    | rest => ([], rest)
  let ds := whole ++ fraction
  match natural? 10 ds, exponent? rest with
  | some m, some e => some (doubleOfDigits negative m ds.length (e - fraction.length))
  | _, _ => none

/-- Whether a text is the name of an infinite number behind its point. -/
def isInfinity (cs : List Char) : Bool :=
  cs = "inf".toList || cs = "Inf".toList || cs = "INF".toList

/-- Whether a text is the name of an undefined number behind its point. -/
def isUndefined (cs : List Char) : Bool :=
  cs = "nan".toList || cs = "NaN".toList || cs = "NAN".toList

/-- The number that a text without sign or behind one stands for; digits must not
stand for a number beyond the largest. -/
def doubleBehindSign? (negative : Bool) (cs : List Char) : Option Double :=
  if cs.head? = some '.' ∧ isInfinity (cs.drop 1) then some (.infinity negative)
  else
    match unsignedDouble? negative cs with
    | some x => if x.isFinite then some x else none
    | none => none

/-- The number that a text stands for. -/
def double? (text : String) : Option Double :=
  match text.toList with
  | '+' :: cs => doubleBehindSign? false cs
  | '-' :: cs => doubleBehindSign? true cs
  | cs =>
    if cs.head? = some '.' ∧ isUndefined (cs.drop 1) then some .nan
    else doubleBehindSign? false cs

/-! ### Values -/

/-- Whether a whole number is kept as such: it is a natural of 64 bits, or one of
64 bits with a sign. -/
def isKept (n : Int) : Bool := -(Nat.pow 2 63) ≤ n && n < Nat.pow 2 64

/-- Whether a whole number fits 128 bits, with a sign if it is negative. -/
def isWide (n : Int) : Bool := -(Nat.pow 2 127) ≤ n && n < Nat.pow 2 128

/-- The value of a plain scalar without tag; none if it is an error. -/
def plainValue? (text : String) : Option Json :=
  let other : Option Json :=
    if hasNeedlessZero (dropSign text.toList) then some (.text text)
    else
      match double? text with
      | some x => some (.double x)
      | none => some (.text text)
  if text.isEmpty || isNull text then some .null
  else
    match truth? text, whole? text with
    | some b, _ => some (.bool b)
    | none, some n =>
      if isKept n then some (.number (.int n)) else if isWide n then none else other
    | none, none => other

/-- The full name of a tag of the notation. -/
def standardTag (name : String) : String := "tag:yaml.org,2002:" ++ name

/-- Whether a tag belongs to a document alone. -/
def isLocalTag (tag : String) : Bool := tag.toList.head? = some '!'

/-- The value of a scalar; none if it is an error. A tag of the notation asks for
its form, however the scalar is written; a local tag is an error, and every other
one asks for a text. -/
def scalarValue? (tag : Option String) (style : Style) (text : String) : Option Json :=
  match tag with
  | none => if style = .plain then plainValue? text else some (.text text)
  | some tag =>
    if isLocalTag tag then none
    else if tag = standardTag "null" then if isNull text then some .null else none
    else if tag = standardTag "bool" then (truth? text).map .bool
    else if tag = standardTag "int" then
      match whole? text with
      | some n => if isKept n then some (.number (.int n)) else none
      | none => none
    else if tag = standardTag "float" then (double? text).map .double
    else some (.text text)

end CancellationPolicy.Yaml
