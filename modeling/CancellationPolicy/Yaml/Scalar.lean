import CancellationPolicy.Yaml.Cursor

/-! # Scalars

The text of a scalar can be written plain, between quotes of two kinds, or as a
block of lines. Except in blocks, the end of a line and the blanks around it
stand for one space, and further line ends for themselves (`Gap.text`).
-/

namespace CancellationPolicy.Yaml

/-- How the text of a scalar is written. -/
inductive Style where
  /-- As it is. -/
  | plain
  /-- Between quotes. -/
  | quoted
  /-- As a block of lines that are kept. -/
  | literal
  /-- As a block of lines that are joined. -/
  | folded
  deriving DecidableEq, Repr

/-! ### Gaps -/

/-- Blanks and line ends between two words. -/
structure Gap where
  /-- Whether there is a line end. -/
  isBroken : Bool
  /-- The blanks, unless there is a line end. -/
  blanks : List Char
  /-- The first line end. -/
  first : Option Char
  /-- The other line ends. -/
  more : List Char

namespace Gap

/-- No gap. -/
def none : Gap := ⟨false, [], .none, []⟩

/-- The gap behind an escaped line end, which stands for nothing. -/
def escaped : Gap := ⟨true, [], .none, []⟩

/-- The gap with a further blank, which does not count behind a line end. -/
def addBlank (g : Gap) (c : Char) : Gap :=
  if g.isBroken then g else { g with blanks := g.blanks ++ [c] }

/-- The gap with a further line end. -/
def addBreak (g : Gap) (c : Char) : Gap :=
  if g.isBroken then { g with more := g.more ++ [c] } else ⟨true, [], some c, []⟩

/-- What the gap stands for: its blanks, a space for one line end, and line ends
without the first for several. -/
def text (g : Gap) : List Char :=
  if g.isBroken then
    match g.first with
    | some '\n' => if g.more.isEmpty then [' '] else g.more
    | some c => c :: g.more
    | .none => g.more
  else g.blanks

/-- Reads blanks and line ends. A tab in front of the column `margin` of a
further line is an error. -/
def read? (margin : Nat) : (fuel : Nat) → Gap → Cursor → Option (Gap × Cursor)
  | 0, g, c => some (g, c)
  | fuel + 1, g, c =>
    match c.nextLine? with
    | some (b, next) => read? margin fuel (g.addBreak b) next
    | .none =>
      match c.rest with
      | ' ' :: _ => read? margin fuel (g.addBlank ' ') (c.skip 1)
      | '\t' :: _ =>
        if g.isBroken && c.column < margin then .none
        else read? margin fuel (g.addBlank '\t') (c.skip 1)
      | _ => some (g, c)

end Gap

/-! ### Plain scalars -/

/-- Whether a character ends a plain scalar inside of brackets. -/
def isFlowMark (c : Char) : Bool := c = ',' || c = '[' || c = ']' || c = '{' || c = '}'

/-- The characters of a word of a plain scalar, up to a blank, a line end or what
ends the scalar. Inside of brackets a colon must not stand directly in front of
a mark. -/
def plainWord? (flow : Bool) : List Char → Option (List Char)
  | [] => some []
  | c :: cs =>
    if isGap c || isBreak c then some []
    else if flow && c = ':' && cs.head?.any fun d => isFlowMark d || d = '?' then none
    else if (c = ':' && atGap cs) || (flow && isFlowMark c) then some []
    else (plainWord? flow cs).map (c :: ·)

/-- Reads a plain scalar behind the words `done`, whose further lines must start
at the column `margin` unless it stands inside of brackets. The flag tells
whether it ends behind the end of a line. -/
def plain? (flow : Bool) (margin : Nat) :
    (fuel : Nat) → (done : List Char) → Gap → Cursor → Option (List Char × Bool × Cursor)
  | 0, done, g, c => some (done, g.isBroken, c)
  | fuel + 1, done, g, c =>
    if c.atDocumentMark || c.rest.head? = some '#' then some (done, g.isBroken, c)
    else
      match plainWord? flow c.rest with
      | none => none
      | some word =>
        let (done, g) := if word.isEmpty then (done, g) else (done ++ g.text ++ word, .none)
        let c := c.skip word.length
        -- the word ends at a mark, and with it the scalar
        if c.rest.isEmpty || !atGap c.rest then some (done, g.isBroken, c)
        else
          match Gap.read? margin (c.rest.length + 1) g c with
          | none => none
          | some (g, c) =>
            if !flow && c.column < margin then some (done, g.isBroken, c)
            else plain? flow margin fuel done g c

/-! ### Quoted scalars -/

/-- The value of a hexadecimal digit of either case. -/
def hexValue? (c : Char) : Option Nat :=
  if c.isDigit then some (c.toNat - 48)
  else if 'a' ≤ c ∧ c ≤ 'f' then some (c.toNat - 87)
  else if 'A' ≤ c ∧ c ≤ 'F' then some (c.toNat - 55)
  else none

/-- The number of a fixed count of hexadecimal digits at the front of a text. -/
def hexNumber? : (count : Nat) → (value : Nat) → List Char → Option Nat
  | 0, v, _ => some v
  | _ + 1, _, [] => none
  | n + 1, v, c :: cs =>
    match hexValue? c with
    | some d => hexNumber? n (16 * v + d) cs
    | none => none

/-- The character of an escape of one letter. -/
def escaped? (c : Char) : Option Char :=
  match c with
  | '0' => some '\x00'
  | 'a' => some '\x07'
  | 'b' => some '\x08'
  | 't' => some '\t'
  | '\t' => some '\t'
  | 'n' => some '\n'
  | 'v' => some '\x0b'
  | 'f' => some '\x0c'
  | 'r' => some '\r'
  | 'e' => some '\x1b'
  | ' ' => some ' '
  | '"' => some '"'
  | '/' => some '/'
  | '\\' => some '\\'
  | 'N' => some '\x85'
  | '_' => some '\xa0'
  | 'L' => some '\u2028'
  | 'P' => some '\u2029'
  | _ => none

/-- How many digits follow the letter of an escape by number. -/
def escapeLength (c : Char) : Nat :=
  if c = 'x' then 2 else if c = 'u' then 4 else if c = 'U' then 8 else 0

/-- Reads an escape behind its backslash: the character, and how many characters
of the text it takes. -/
def escape? : List Char → Option (Char × Nat)
  | [] => none
  | c :: cs =>
    match escapeLength c with
    | 0 => (escaped? c).map fun d => (d, 1)
    | n =>
      match hexNumber? n 0 cs with
      | some v => if v.isValidChar then some (Char.ofNat v, n + 1) else none
      | none => none

/-- Reads a word between quotes, up to a blank, a line end, the closing quote or
an escaped line end, which is passed over; the flag tells of the last. -/
def quotedWord? (quote : Char) :
    (fuel : Nat) → (done : List Char) → Cursor → Option (List Char × Bool × Cursor)
  | 0, done, c => some (done, false, c)
  | fuel + 1, done, c =>
    match c.rest with
    | [] => some (done, false, c)
    | d :: rest =>
      if isGap d || isBreak d then some (done, false, c)
      else if d = quote then
        -- a quote that is written twice
        if quote = '\'' ∧ rest.head? = some '\'' then
          quotedWord? quote fuel (done ++ ['\'']) (c.skip 2)
        else some (done, false, c)
      else if quote = '"' ∧ d = '\\' then
        match (c.skip 1).nextLine? with
        -- the end of the line is no part of the word
        | some (_, next) => some (done, true, next)
        | none =>
          match escape? rest with
          | some (e, n) => quotedWord? quote fuel (done ++ [e]) (c.skip (n + 1))
          | none => none
      else quotedWord? quote fuel (done ++ [d]) (c.skip 1)

/-- Reads a scalar behind its opening quote and the words `done`. A mark of a
document is an error. -/
def quoted? (quote : Char) :
    (fuel : Nat) → (done : List Char) → Cursor → Option (List Char × Cursor)
  | 0, _, _ => none
  | fuel + 1, done, c =>
    if c.atDocumentMark || c.rest.isEmpty then none
    else
      match quotedWord? quote (c.rest.length + 1) [] c with
      | none => none
      | some (word, isEscaped, c) =>
        let done := done ++ word
        if c.rest.head? = some quote then some (done, c.skip 1)
        else
          match Gap.read? 0 (c.rest.length + 1) (if isEscaped then .escaped else .none) c with
          | none => none
          | some (g, c) => quoted? quote fuel (done ++ g.text) c

/-! ### Blocks -/

/-- What becomes of the line ends at the end of a block. -/
inductive Chomp where
  /-- All are dropped. -/
  | strip
  /-- The first is kept. -/
  | clip
  /-- All are kept. -/
  | keep
  deriving DecidableEq, Repr

/-- Reads a mark of what becomes of line ends. -/
def chomp? (c : Cursor) : Option (Chomp × Cursor) :=
  match c.rest with
  | '+' :: _ => some (.keep, c.skip 1)
  | '-' :: _ => some (.strip, c.skip 1)
  | _ => none

/-- Reads the indentation of a block, a digit other than zero, if there is
one. -/
def increment? (c : Cursor) : Option (Option Nat × Cursor) :=
  match c.rest with
  | d :: _ =>
    if d = '0' then none
    else if d.isDigit then some (some (d.toNat - 48), c.skip 1)
    else some (none, c)
  | [] => some (none, c)

/-- Reads the marks behind the indicator of a block, in either order. -/
def blockMarks? (c : Cursor) : Option (Chomp × Option Nat × Cursor) :=
  match chomp? c with
  | some (chomp, c) => (increment? c).map fun (n, c) => (chomp, n, c)
  | none =>
    match increment? c with
    | none => none
    | some (none, c) => some (.clip, none, c)
    | some (some n, c) =>
      match chomp? c with
      | some (chomp, c) => some (chomp, some n, c)
      | none => some (.clip, some n, c)

/-- Reads the indentation of lines and empty lines. Without a known indentation
all spaces count; `widest` is the greatest column met. A tab in front of the
indentation is an error. -/
def blockBreaks? (indent : Option Nat) :
    (fuel : Nat) → (widest : Nat) → (breaks : List Char) → Cursor →
      Option (Nat × List Char × Cursor)
  | 0, widest, breaks, c => some (widest, breaks, c)
  | fuel + 1, widest, breaks, c =>
    let spaces := (c.rest.takeWhile (· == ' ')).length
    let c := c.skip (match indent with
      | some n => min spaces (n - c.column)
      | none => spaces)
    let widest := max widest c.column
    if (indent.all (c.column < ·)) && c.rest.head? = some '\t' then none
    else
      match c.nextLine? with
      | some (b, next) => blockBreaks? indent fuel widest (breaks ++ [b]) next
      | none => some (widest, breaks, c)

/-- The lines of a block that have been read. -/
structure Block where
  /-- The text so far. -/
  text : List Char
  /-- The end of the last line. -/
  ending : List Char
  /-- The ends of empty lines behind it. -/
  breaks : List Char
  /-- Whether the last line starts with a blank. -/
  isIndented : Bool

/-- The text of a block in front of a further line, which starts with a blank or
not. Lines are joined if neither starts with a blank. -/
def Block.joined (folded : Bool) (b : Block) (indented : Bool) : List Char :=
  if folded && b.ending.head? = some '\n' && !b.isIndented && !indented then
    b.text ++ (if b.breaks.isEmpty then [' '] else b.breaks)
  else b.text ++ b.ending ++ b.breaks

/-- Reads the lines of a block with an indentation. -/
def blockLines? (folded : Bool) (indent : Nat) :
    (fuel : Nat) → Block → Cursor → Option (Block × Cursor)
  | 0, b, c => some (b, c)
  | fuel + 1, b, c =>
    if c.column ≠ indent ∨ c.rest.isEmpty then some (b, c)
    else
      let indented := c.rest.head?.any isGap
      let text := b.joined folded indented
      let (line, c) := c.takeWhile (!isBreak ·)
      let (ending, c) := match c.nextLine? with
        | some (e, next) => ([e], next)
        | none => ([], c)
      match blockBreaks? (some indent) (c.rest.length + 1) 0 [] c with
      | none => none
      | some (_, breaks, c) => blockLines? folded indent fuel ⟨text ++ line, ending, breaks, indented⟩ c

/-- Reads a block behind its indicator, inside of a structure at the column
`parent`, which is negative at the outermost. -/
def block? (folded : Bool) (parent : Int) (c : Cursor) : Option (List Char × Cursor) :=
  match blockMarks? c with
  | none => none
  | some (chomp, increment, c) =>
    match c.skipLineRest? with
    | none => none
    | some c =>
      let known := increment.map fun n => (max parent 0).toNat + n
      match blockBreaks? known (c.rest.length + 1) 0 [] c with
      | none => none
      | some (widest, breaks, c) =>
        -- without a number, the first line that is not empty says how far a block is indented
        let indent := known.getD (max (max widest (parent + 1).toNat) 1)
        match blockLines? folded indent (c.rest.length + 1) ⟨[], [], breaks, false⟩ c with
        | none => none
        | some (b, c) =>
          some (match chomp with
            | .strip => b.text
            | .clip => b.text ++ b.ending
            | .keep => b.text ++ b.ending ++ b.breaks, c)

end CancellationPolicy.Yaml
