import CancellationPolicy.Pattern.Bracket
import CancellationPolicy.Unicode.Trait

/-! # Pattern notation

A pattern text is a row of parts: atoms, classes, groups and repetitions.
`Pattern.parse?` reads a text in a mode and yields no pattern if the text is
ill-formed, uses a look-around or a reference to a group, names two groups
alike, or is nested too deep.
-/

namespace CancellationPolicy.Pattern

/-- How deep the parts of a pattern text may be nested. -/
def nesting : Nat := 250

namespace Notation

/-- A part that has been read, with the depth of its nesting. -/
structure Part where
  /-- The pattern. -/
  pattern : Pattern
  /-- The depth of nesting. -/
  depth : Nat

/-- The item of a row: a part, or a change of mode, which cannot be repeated. -/
abbrev Item := Option Part

/-- A row of items, the last first, as one part. -/
def row (items : List Item) : Part :=
  let parts := items.reverse.filterMap id
  let depth := parts.foldl (fun d x => max d x.depth) 0
  ⟨.row (parts.map Part.pattern), if items.length < 2 then depth else depth + 1⟩

/-- A pattern as one of several alternatives. A group of alternatives is kept apart
from those around it by the empty text in front of it. -/
def alternative : Pattern → Pattern
  | .alt p q => .cat .empty (.alt p q)
  | p => p

/-- Alternatives, the last first, as one part. -/
def alternatives (rows : List Part) : Part :=
  let depth := rows.foldl (fun d x => max d x.depth) 0
  match rows with
  | [x] => ⟨x.pattern, depth⟩
  | _ => ⟨.oneOf (rows.reverse.map fun x => alternative x.pattern), depth + 1⟩

/-! ### Groups -/

/-- The set of letters. -/
def letters : CharSet := (Unicode.trait? "alphabetic").getD ∅

/-- Whether a name may start with the character. For ASCII no table is asked. -/
def startsName (c : Char) : Bool :=
  c == '_' || (if c.toNat < 0x80 then c.isAlpha else letters.holds c)

/-- Whether a name may go on with the character. -/
def continuesName (c : Char) : Bool :=
  c == '_' || c == '.' || c == '[' || c == ']' || Unicode.isAlphanumeric c

/-- Reads the name of a group up to the closing angle bracket. -/
def groupName? (cs : List Char) : Option (String × List Char) :=
  let name := cs.takeWhile (· != '>')
  match name, cs.drop name.length with
  | c :: rest, '>' :: behind =>
    if startsName c && rest.all continuesName then some (String.ofList name, behind) else none
  | _, _ => none

/-- What an opening parenthesis starts. -/
inductive Opening where
  /-- A group that is kept, under a name if it has one. -/
  | kept (name : Option String)
  /-- A group that is not kept, with a mode of its own. -/
  | plain (mode : Mode)
  /-- A change of mode up to the end of the group around it. -/
  | change (mode : Mode)

/-- Reads what follows an opening parenthesis. Look-arounds are refused. -/
def opening? (m : Mode) (cs : List Char) : Option (Opening × List Char) :=
  match m.skip cs with
  | '?' :: 'P' :: '<' :: rest => (groupName? rest).map fun (n, rest) => (.kept (some n), rest)
  | '?' :: '<' :: '=' :: _ => none
  | '?' :: '<' :: '!' :: _ => none
  | '?' :: '<' :: rest => (groupName? rest).map fun (n, rest) => (.kept (some n), rest)
  | '?' :: ')' :: _ => none
  | '?' :: rest =>
    match m.switches? true [] rest with
    | some (m, ':' :: rest) => some (.plain m, rest)
    | some (m, _ :: rest) => some (.change m, rest)
    | _ => none
  | rest => some (.kept none, rest)

/-! ### Repetitions -/

/-- Reads digits and the blanks around them. -/
def digits (m : Mode) : (fuel : Nat) → List Char → List Char × List Char
  | 0, cs => ([], cs)
  | _ + 1, [] => ([], [])
  | fuel + 1, c :: cs =>
    if c.isDigit then
      let (ds, rest) := digits m fuel (m.skip cs)
      (c :: ds, rest)
    else ([], c :: cs)

/-- Reads a count of at most 32 bits, which blanks may surround in any mode. -/
def count? (m : Mode) (cs : List Char) : Option (Nat × List Char) :=
  let (ds, rest) := digits m (cs.length + 1) (cs.dropWhile isBlank)
  let n := ds.foldl (fun n d => 10 * n + (d.toNat - 48)) 0
  if ds.isEmpty || Nat.pow 2 32 ≤ n then none else some (n, m.skip (rest.dropWhile isBlank))

/-- Reads the bounds of a repetition behind the opening brace. -/
def bounds? (m : Mode) (cs : List Char) : Option (Nat × Option Nat × List Char) :=
  match count? m (m.skip cs) with
  | none => none
  | some (least, ',' :: rest) =>
    match m.skip rest with
    | '}' :: rest => some (least, none, rest)
    | rest =>
      match count? m rest with
      | some (most, '}' :: rest) => if least ≤ most then some (least, some most, rest) else none
      | _ => none
  | some (least, '}' :: rest) => some (least, some least, rest)
  | _ => none

/-- Reads the mark that turns the preference of a repetition round. -/
def reluctance (cs : List Char) : Bool × List Char :=
  match cs with
  | '?' :: rest => (true, rest)
  | rest => (false, rest)

/-- The bounds of a repetition sign. -/
def sign? (c : Char) : Option (Nat × Option Nat) :=
  if c = '?' then some (0, some 1)
  else if c = '*' then some (0, none)
  else if c = '+' then some (1, none)
  else none

/-- Reads the bounds of a repetition and its mark of preference, if there is
one. Behind braces, blanks may stand in front of the mark. -/
def repetition? (m : Mode) (c : Char) (cs : List Char) :
    Option (Nat × Option Nat × Bool × List Char) :=
  match sign? c with
  | some (least, most) =>
    let (mark, rest) := reluctance cs
    some (least, most, mark, rest)
  | none =>
    match bounds? m cs with
    | some (least, most, rest) =>
      let (mark, rest) := reluctance (m.skip rest)
      some (least, most, mark, rest)
    | none => none

/-- The last item of a row, repeated; there must be one that can be. -/
def repeatLast? (m : Mode) (least : Nat) (most : Option Nat) (mark : Bool) :
    List Item → Option (List Item)
  | some x :: items =>
    some (some ⟨.times least most (mark == m.reluctant) x.pattern, x.depth + 1⟩ :: items)
  | _ => none

/-! ### Rows -/

/-- Reads a part that is neither a group nor a repetition. -/
def simple? (m : Mode) : List Char → Option (Part × List Char)
  | [] => none
  | '[' :: cs => (bracket? m cs).map fun (x, rest) => (⟨.chars x.set, x.depth⟩, rest)
  | '\\' :: cs =>
    match Atom.escape? m cs with
    | some (a, rest) => (a.pattern? m).map fun p => (⟨p, 0⟩, rest)
    | none => none
  | '.' :: cs => m.dot?.map fun s => (⟨.chars s, 0⟩, cs)
  | '^' :: cs =>
    some (⟨.assertion (if m.multiline then .lineStart m.crlf else .textStart), 0⟩, cs)
  | '$' :: cs => some (⟨.assertion (if m.multiline then .lineEnd m.crlf else .textEnd), 0⟩, cs)
  | c :: cs => some (⟨.chars (m.literal c), 0⟩, cs)

/-- Reads alternatives up to the end of the text or a closing parenthesis, which
stays. `names` holds the names of the groups so far, `rows` the alternatives and
`items` the row read so far, the last first; `fuel` bounds the count of steps. -/
def alternatives? :
    (fuel : Nat) → (m : Mode) → (names : List String) → (rows : List Part) → (items : List Item) →
      List Char → Option (Part × List String × List Char)
  | 0, _, _, _, _, _ => none
  | fuel + 1, m, names, rows, items, cs =>
    match m.skip cs with
    | [] => some (alternatives (row items :: rows), names, [])
    | ')' :: rest => some (alternatives (row items :: rows), names, ')' :: rest)
    | '|' :: rest => alternatives? fuel m names (row items :: rows) [] rest
    | '(' :: rest =>
      match opening? m rest with
      | none => none
      -- the mode changes for the rest of the row and for the alternatives behind it
      | some (.change m, rest) => alternatives? fuel m names rows (none :: items) rest
      -- behind the group the mode is again the one in front of it
      | some (.plain inner, rest) =>
        match alternatives? fuel inner names [] [] rest with
        | some (x, names, ')' :: rest) =>
          alternatives? fuel m names rows (some ⟨x.pattern, x.depth + 1⟩ :: items) rest
        | _ => none
      | some (.kept name, rest) =>
        -- no two groups may have one name, wherever they stand
        if name.any names.contains then none
        else
          match alternatives? fuel m (name.toList ++ names) [] [] rest with
          | some (x, names, ')' :: rest) =>
            alternatives? fuel m names rows (some ⟨.group name x.pattern, x.depth + 1⟩ :: items)
              rest
          | _ => none
    | c :: rest =>
      if (sign? c).isSome || c = '\x7b' then
        match repetition? m c rest with
        | none => none
        | some (least, most, mark, rest) =>
          match repeatLast? m least most mark items with
          | some items => alternatives? fuel m names rows items rest
          | none => none
      else
        match simple? m (c :: rest) with
        | some (x, rest) => alternatives? fuel m names rows (some x :: items) rest
        | none => none

end Notation

/-- Reads a pattern text. -/
def parse? (m : Mode) (text : String) : Option Pattern :=
  let cs := text.toList
  match Notation.alternatives? (cs.length + 1) m [] [] [] cs with
  | some (x, _, []) => if x.depth ≤ nesting then some x.pattern else none
  | _ => none

end CancellationPolicy.Pattern
