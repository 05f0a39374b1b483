import CancellationPolicy.Floating.Style
import CancellationPolicy.Keyed

/-! # Documents in JavaScript object notation

`Json` is the value that a text of the notation stands for. Members of an object
keep the order in which they are to be written; a value that was read has them in
increasing order of their names.

`Json.pretty` writes a value over several lines, two blanks to a level.
-/

namespace CancellationPolicy

/-- A number of a document. -/
inductive Json.Number where
  /-- A whole number. -/
  | int (value : Int)
  /-- A number of 64 bits. -/
  | double (value : Double)
  /-- A number of 32 bits. -/
  | single (value : Single)
  deriving DecidableEq

/-- A value of a document. -/
inductive Json where
  /-- The missing value. -/
  | null
  /-- A truth value. -/
  | bool (value : Bool)
  /-- A number. -/
  | number (value : Json.Number)
  /-- A text. -/
  | text (value : String)
  /-- A list of values. -/
  | array (items : List Json)
  /-- Values under names. -/
  | object (members : List (String × Json))

namespace Json

instance : Inhabited Json := ⟨null⟩

/-- A natural as a value. -/
def nat (n : Nat) : Json := number (.int n)

/-- A number of 32 bits as a value; a number that is not finite is missing. -/
def single (x : Single) : Json := if x.isFinite then number (.single x) else null

/-- A number of 64 bits as a value; a number that is not finite is missing. -/
def double (x : Double) : Json := if x.isFinite then number (.double x) else null

/-- An object with its members in increasing order of their names, the later of
two members of one name. -/
def ofMembers (ms : List (String × Json)) : Json := object (Keyed.ofList ms)

/-- The member of an object under a name. -/
def member? (name : String) : Json → Option Json
  | object ms => Keyed.find? name ms
  | _ => none

/-- The text of a number. -/
def Number.toText : Number → String
  | .int n => toString n
  | .double x => x.write .document
  | .single x => x.write .shortDocument

/-! ### Quoting -/

/-- A hexadecimal digit in lower case. -/
def hexDigit (n : Nat) : Char := if n < 10 then Char.ofNat (48 + n) else Char.ofNat (87 + n)

/-- How a character stands between quotes: quotes, backslashes and control
characters are escaped. -/
def escape (c : Char) : List Char :=
  if c = '"' then ['\\', '"']
  else if c = '\\' then ['\\', '\\']
  else if c = '\n' then ['\\', 'n']
  else if c = '\r' then ['\\', 'r']
  else if c = '\t' then ['\\', 't']
  else if c = '\x08' then ['\\', 'b']
  else if c = '\x0c' then ['\\', 'f']
  else if c.toNat < 32 then ['\\', 'u', '0', '0', hexDigit (c.toNat / 16), hexDigit (c.toNat % 16)]
  else [c]

/-- A text between quotes. -/
def quote (s : String) : String := String.ofList ('"' :: s.toList.flatMap escape ++ ['"'])

/-! ### Layout -/

/-- A line end and the blanks of a level. -/
def lineAt (level : Nat) : String := String.ofList ('\n' :: List.replicate (2 * level) ' ')

mutual

/-- The text of a value that starts at a level. -/
def prettyAt (level : Nat) : Json → String
  | null => "null"
  | bool b => if b then "true" else "false"
  | number n => n.toText
  | text s => quote s
  | array [] => "[]"
  | array (x :: xs) => "[" ++ prettyItems (level + 1) true (x :: xs) ++ lineAt level ++ "]"
  | object [] => "\x7b\x7d"
  | object (m :: ms) => "\x7b" ++ prettyMembers (level + 1) true (m :: ms) ++ lineAt level ++ "\x7d"

/-- The items of an array, each on a line of its own. -/
def prettyItems (level : Nat) (first : Bool) : List Json → String
  | [] => ""
  | x :: xs =>
    (if first then "" else ",") ++ lineAt level ++ prettyAt level x ++ prettyItems level false xs

/-- The members of an object, each on a line of its own. -/
def prettyMembers (level : Nat) (first : Bool) : List (String × Json) → String
  | [] => ""
  | (k, v) :: ms =>
    (if first then "" else ",") ++ lineAt level ++ quote k ++ ": " ++ prettyAt level v ++
      prettyMembers level false ms

end

/-- The text of a value over several lines. -/
def pretty (v : Json) : String := prettyAt 0 v

end Json

end CancellationPolicy
