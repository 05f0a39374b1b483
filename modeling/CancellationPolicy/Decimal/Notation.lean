import CancellationPolicy.Decimal.Basic
import CancellationPolicy.Floating.Style
import CancellationPolicy.Text.Blank

/-! # Decimals as text

An amount is written with an optional sign, an integer part and an optional
fraction. The integer part is either plain digits or groups of three digits
behind commas, the first group having one to three digits
(`Amount.parse?`). Any other placement of commas is no amount.

A count is an amount with an optional percent sign behind it.

Reading keeps the written places. A fraction with more digits than a mantissa or
a scale can hold is rounded on the first digit left out; an integer part that
does not fit is refused.
-/

namespace CancellationPolicy

namespace Decimal

/-! ### Printing -/

/-- The text of a decimal, with all its places. -/
def toText (x : Decimal) : String :=
  let ds := digitsPadded (x.scale + 1) x.mantissa
  let body :=
    if x.scale = 0 then ds
    else ds.take (ds.length - x.scale) ++ '.' :: ds.drop (ds.length - x.scale)
  String.ofList (if x.negative then '-' :: body else body)

/-! ### Reading digits -/

/-- The value of a digit character. -/
def digitValue (c : Char) : Nat := c.toNat - 48

/-- The value of a row of digits behind the value `n`. -/
def digitsValue (n : Nat) (ds : List Char) : Nat := ds.foldl (fun n d => 10 * n + digitValue d) n

/-- Rounds the mantissa `m` at the scale `s` up if the first digit left out is
five or more. A mantissa that leaves its range by this gives up one place. -/
def roundedOn? (negative : Bool) (m s : Nat) (next : Char) : Option Decimal :=
  if digitValue next < 5 then ofParts? negative m s
  else if m + 1 < mantissaBound then ofParts? negative (m + 1) s
  else if s = 0 then none
  else ofParts? negative ((m + 5) / 10) (s - 1)

/-- Reads the fraction digits `ds` behind the mantissa `m` of scale `s`. -/
def withFraction? (negative : Bool) : (m s : Nat) → (ds : List Char) → Option Decimal
  | m, s, [] => ofParts? negative m s
  | m, s, d :: ds =>
    if s < maxScale ∧ 10 * m + digitValue d < mantissaBound then
      withFraction? negative (10 * m + digitValue d) (s + 1) ds
    else roundedOn? negative m s d

/-- The decimal with the given integer and fraction digits. -/
def ofDigits? (negative : Bool) (whole fraction : List Char) : Option Decimal :=
  let m := digitsValue 0 whole
  if m < mantissaBound then withFraction? negative m 0 fraction else none

end Decimal

namespace Amount

/-- Whether a character is an ASCII digit. -/
def isDigit (c : Char) : Bool := '0' ≤ c && c ≤ '9'

/-- Splits off the ASCII digits at the front. -/
def spanDigits (cs : List Char) : List Char × List Char := (cs.takeWhile isDigit, cs.dropWhile isDigit)

/-- Reads groups of a comma and three digits; the digits read and the rest. -/
def spanGroups : List Char → List Char × List Char
  | ',' :: a :: b :: c :: rest =>
    if isDigit a && isDigit b && isDigit c then
      let (ds, rest) := spanGroups rest
      (a :: b :: c :: ds, rest)
    else ([], ',' :: a :: b :: c :: rest)
  | cs => ([], cs)

/-- Reads an optional fraction at the end of the text; its digits. -/
def fraction? : List Char → Option (List Char)
  | [] => some []
  | '.' :: cs => if !cs.isEmpty && cs.all isDigit then some cs else none
  | _ => none

/-- Splits a sign off the front; whether it is a minus. -/
def splitSign : List Char → Bool × List Char
  | '-' :: cs => (true, cs)
  | '+' :: cs => (false, cs)
  | cs => (false, cs)

/-- The integer and fraction digits of an amount without blanks and sign, the
separators of a grouped integer part left out. -/
def digits? (cs : List Char) : Option (List Char × List Char) :=
  let (head, rest) := spanDigits cs
  if head.isEmpty then none
  else
    match rest with
    | ',' :: _ =>
      let (groups, tail) := spanGroups rest
      if head.length ≤ 3 then (fraction? tail).map fun fr => (head ++ groups, fr) else none
    | _ => (fraction? rest).map fun fr => (head, fr)

/-- Reads an amount: a decimal with blanks around it. -/
def parse? (text : String) : Option Decimal :=
  let (negative, body) := splitSign (Text.trim text.toList)
  match digits? body with
  | some (whole, fr) => Decimal.ofDigits? negative whole fr
  | none => none

/-- Whether a text is a well-formed amount. -/
def isWellFormed (text : String) : Bool := (parse? text).isSome

end Amount

namespace Count

/-- The text without one percent sign at its end. -/
def dropPercent (cs : List Char) : List Char :=
  match cs.reverse with
  | '%' :: rest => rest.reverse
  | _ => cs

/-- Reads a count: an amount that a percent sign may follow. -/
def parse? (text : String) : Option Decimal :=
  Amount.parse? (String.ofList (dropPercent (Text.trim text.toList)))

end Count

end CancellationPolicy
