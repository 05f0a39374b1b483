import CancellationPolicy.Json.Numeral

/-! # Reading documents

Reading has two steps. `Source.read?` checks the notation of a text and keeps
what is written: numerals unevaluated, repeated members in place, texts whose
escapes stand for no character marked as such. What is asked of a source decides
what it is read as (`Source.toJson?`, and the decoders of the document types):
a numeral out of range, a broken text or a nesting that is too deep is an error
only where its value is needed.

Containers that are read may be nested 127 deep (`Source.nesting`).
-/

namespace CancellationPolicy.Json

/-- A document as it is written. -/
inductive Source where
  /-- The missing value. -/
  | null
  /-- A truth value. -/
  | bool (value : Bool)
  /-- A numeral. -/
  | number (numeral : Numeral)
  /-- A text, if its escapes stand for characters. -/
  | text (content : Option String)
  /-- A list of values. -/
  | array (items : List Source)
  /-- Values under names, repeated names included. -/
  | object (members : List (Option String × Source))

namespace Source

instance : Inhabited Source := ⟨null⟩

/-! ### Lexical parts -/

/-- Whether a character may stand between the parts of a document. -/
def isSpace (c : Char) : Bool := c = ' ' || c = '\n' || c = '\t' || c = '\r'

/-- The text behind leading spaces. -/
def skip (cs : List Char) : List Char := cs.dropWhile isSpace

/-- The value of a hexadecimal digit of either case. -/
def hexValue? (c : Char) : Option Nat :=
  if '0' ≤ c ∧ c ≤ '9' then some (c.toNat - 48)
  else if 'a' ≤ c ∧ c ≤ 'f' then some (c.toNat - 87)
  else if 'A' ≤ c ∧ c ≤ 'F' then some (c.toNat - 55)
  else none

/-- The number of four hexadecimal digits. -/
def hexWord? (a b c d : Char) : Option Nat := do
  let a ← hexValue? a
  let b ← hexValue? b
  let c ← hexValue? c
  let d ← hexValue? d
  return ((a * 16 + b) * 16 + c) * 16 + d

/-- The character of an escape of one letter. -/
def escaped? (c : Char) : Option Char :=
  if c = '"' ∨ c = '\\' ∨ c = '/' then some c
  else if c = 'b' then some '\x08'
  else if c = 'f' then some '\x0c'
  else if c = 'n' then some '\n'
  else if c = 'r' then some '\r'
  else if c = 't' then some '\t'
  else none

/-- A part of a text between quotes. -/
inductive Piece where
  /-- A character, itself or by an escape of one letter. -/
  | char (c : Char)
  /-- An escape of four hexadecimal digits. -/
  | word (n : Nat)

/-- Whether a word is the first of a pair that stands for one character. -/
def isHigh (n : Nat) : Bool := 0xD800 ≤ n && n ≤ 0xDBFF

/-- Whether a word is the second of a pair that stands for one character. -/
def isLow (n : Nat) : Bool := 0xDC00 ≤ n && n ≤ 0xDFFF

/-- Cuts a text behind its opening quote into pieces, up to its closing quote. -/
def pieces? : List Char → Option (List Piece × List Char)
  | [] => none
  | '"' :: rest => some ([], rest)
  | '\\' :: 'u' :: a :: b :: c :: d :: rest =>
    match hexWord? a b c d with
    | some n => (pieces? rest).map fun (ps, rest) => (.word n :: ps, rest)
    | none => none
  | '\\' :: c :: rest =>
    match escaped? c with
    | some d => (pieces? rest).map fun (ps, rest) => (.char d :: ps, rest)
    | none => none
  | c :: rest =>
    if c.toNat < 32 then none
    else (pieces? rest).map fun (ps, rest) => (.char c :: ps, rest)

/-- The characters that pieces stand for; a word of a pair without its partner
stands for none. -/
def chars? : List Piece → Option (List Char)
  | [] => some []
  | .char c :: ps => (chars? ps).map (c :: ·)
  | .word n :: .word m :: ps =>
    if isHigh n && isLow m then
      (chars? ps).map (Char.ofNat (0x10000 + (n - 0xD800) * 0x400 + (m - 0xDC00)) :: ·)
    else if isHigh n || isLow n then none
    else (chars? (.word m :: ps)).map (Char.ofNat n :: ·)
  | .word n :: ps =>
    if isHigh n || isLow n then none else (chars? ps).map (Char.ofNat n :: ·)

/-- Reads a text behind its opening quote: the content, if it stands for
characters, and what follows the closing quote. -/
def textBody (cs : List Char) : Option (Option (List Char) × List Char) :=
  (pieces? cs).map fun (ps, rest) => (chars? ps, rest)

/-- Splits off the digits at the front. -/
def spanDigits (cs : List Char) : List Char × List Char :=
  (cs.takeWhile Char.isDigit, cs.dropWhile Char.isDigit)

/-- Reads an optional fraction of a numeral. -/
def fractionPart? : List Char → Option (Option (List Char) × List Char)
  | '.' :: cs =>
    let (ds, rest) := spanDigits cs
    if ds.isEmpty then none else some (some ds, rest)
  | cs => some (none, cs)

/-- Reads an optional exponent of a numeral. -/
def exponentPart? : List Char → Option (Option (Bool × List Char) × List Char)
  | c :: cs =>
    if c = 'e' ∨ c = 'E' then
      let (minus, cs) := match cs with
        | '+' :: r => (false, r)
        | '-' :: r => (true, r)
        | r => (false, r)
      let (ds, rest) := spanDigits cs
      if ds.isEmpty then none else some (some (minus, ds), rest)
    else some (none, c :: cs)
  | [] => some (none, [])

/-- Reads a numeral behind its sign. A zero in front of further digits is no
numeral. -/
def numeral? (negative : Bool) (cs : List Char) : Option (Numeral × List Char) :=
  let (whole, rest) := spanDigits cs
  match whole with
  | [] => none
  | '0' :: _ :: _ => none
  | whole =>
    match fractionPart? rest with
    | none => none
    | some (fraction, rest) =>
      match exponentPart? rest with
      | none => none
      | some (exponent, rest) => some (⟨negative, whole, fraction, exponent⟩, rest)

/-! ### Values -/

mutual

/-- Reads a value; `fuel` bounds the count of values. -/
def value? : (fuel : Nat) → List Char → Option (Source × List Char)
  | 0, _ => none
  | fuel + 1, cs =>
    match skip cs with
    | 'n' :: 'u' :: 'l' :: 'l' :: rest => some (null, rest)
    | 't' :: 'r' :: 'u' :: 'e' :: rest => some (bool true, rest)
    | 'f' :: 'a' :: 'l' :: 's' :: 'e' :: rest => some (bool false, rest)
    | '"' :: rest => (textBody rest).map fun (s, rest) => (text (s.map String.ofList), rest)
    | '[' :: rest =>
      match skip rest with
      | ']' :: rest => some (array [], rest)
      | rest => (items? fuel rest).map fun (xs, rest) => (array xs, rest)
    | '{' :: rest =>
      match skip rest with
      | '}' :: rest => some (object [], rest)
      | rest => (members? fuel rest).map fun (ms, rest) => (object ms, rest)
    | '-' :: rest => (numeral? true rest).map fun (n, rest) => (number n, rest)
    | rest => (numeral? false rest).map fun (n, rest) => (number n, rest)

/-- Reads the items of an array that has some, up to its closing bracket. -/
def items? : (fuel : Nat) → List Char → Option (List Source × List Char)
  | 0, _ => none
  | fuel + 1, cs =>
    match value? fuel cs with
    | none => none
    | some (x, rest) =>
      match skip rest with
      | ',' :: rest => (items? fuel rest).map fun (xs, rest) => (x :: xs, rest)
      | ']' :: rest => some ([x], rest)
      | _ => none

/-- Reads the members of an object that has some, up to its closing brace. -/
def members? : (fuel : Nat) → List Char → Option (List (Option String × Source) × List Char)
  | 0, _ => none
  | fuel + 1, cs =>
    match skip cs with
    | '"' :: rest =>
      match textBody rest with
      | none => none
      | some (k, rest) =>
        match skip rest with
        | ':' :: rest =>
          match value? fuel rest with
          | none => none
          | some (x, rest) =>
            let m := (k.map String.ofList, x)
            match skip rest with
            | ',' :: rest => (members? fuel rest).map fun (ms, rest) => (m :: ms, rest)
            | '}' :: rest => some ([m], rest)
            | _ => none
        | _ => none
    | _ => none

end

/-- Reads a value at the front of a text, and the text behind it. -/
def readFront? (cs : List Char) : Option (Source × List Char) := value? (2 * cs.length + 2) cs

/-- Reads a text that is one value. -/
def read? (text : String) : Option Source :=
  match readFront? text.toList with
  | some (x, rest) => if (skip rest).isEmpty then some x else none
  | none => none

/-! ### Plain values -/

/-- How deep containers that are read may be nested. -/
def nesting : Nat := 127

/-- The value of a source whose containers are nested at most as deep as
`levels` says. Of two members of one name the later stays. -/
def toJson? : (levels : Nat) → Source → Option Json
  | _, null => some .null
  | _, bool b => some (.bool b)
  | _, number n => n.value?.map .number
  | _, text s => s.map .text
  | 0, array _ => none
  | 0, object _ => none
  | levels + 1, array xs => (xs.mapM (toJson? levels)).map .array
  | levels + 1, object ms =>
    (ms.mapM fun (m : Option String × Source) =>
      match m.1, toJson? levels m.2 with
      | some k, some v => some (k, v)
      | _, _ => none).map .ofMembers

/-! ### Decoders -/

/-- The members under the given names; names that are not asked for are passed
over, and a repeated one is an error. An array stands for the members in order. -/
def fields? (names : List String) : (levels : Nat) → Source → Option (List (String × Source))
  | 0, _ => none
  | _, array xs => if xs.length ≤ names.length then some (names.zip xs) else none
  | _, object ms =>
    ms.foldrM (fun (m : Option String × Source) (acc : List (String × Source)) =>
      match m.1 with
      | none => none
      | some k =>
        if !names.contains k then some acc
        else if acc.any (·.1 = k) then none
        else some ((k, m.2) :: acc)) []
  | _, _ => none

/-- A member that must be there. -/
def required? {α : Type} (name : String) (fields : List (String × Source))
    (decode : Source → Option α) : Option α :=
  match Keyed.find? name fields with
  | some x => decode x
  | none => none

/-- A member that may be missing. -/
def optional? {α : Type} (name : String) (fields : List (String × Source)) (default : α)
    (decode : Source → Option α) : Option α :=
  match Keyed.find? name fields with
  | some x => decode x
  | none => some default

/-- A text. -/
def text? : Source → Option String
  | text s => s
  | _ => none

/-- A whole number within bounds. -/
def intWithin? (lo hi : Int) : Source → Option Int
  | number n =>
    match n.value? with
    | some (.int i) => if lo ≤ i ∧ i ≤ hi then some i else none
    | _ => none
  | _ => none

/-- A natural of 64 bits. -/
def nat? (x : Source) : Option Nat := (intWithin? 0 (Nat.pow 2 64 - 1) x).map Int.toNat

/-- A number of 32 bits; a number beyond the largest becomes infinite. -/
def single? : Source → Option Single
  | number n => n.value?.map Number.toSingle
  | _ => none

/-- A value that may be the missing one. -/
def nullable? {α : Type} (decode : Source → Option α) : Source → Option (Option α)
  | null => some none
  | x => (decode x).map some

/-- A list of values. -/
def list? {α : Type} (decode : Nat → Source → Option α) :
    (levels : Nat) → Source → Option (List α)
  | levels + 1, array xs => xs.mapM (decode levels)
  | _, _ => none

/-- Values under arbitrary names; of two under one name the later stays. -/
def keyed? {α : Type} (decode : Source → Option α) : (levels : Nat) → Source → Option (Keyed α)
  | _ + 1, object ms =>
    (ms.mapM fun (m : Option String × Source) =>
      match m.1, decode m.2 with
      | some k, some v => some (k, v)
      | _, _ => none).map Keyed.ofList
  | _, _ => none

end Source

end CancellationPolicy.Json
