import CancellationPolicy.Yaml.Scalar

/-! # Tags

A tag is written as a handle and the rest of its name. A handle is one
exclamation mark, or a name between two; directives say what handles stand for.
A tag in angle brackets is complete, and has an empty handle.
-/

namespace CancellationPolicy.Yaml

/-! ### Names -/

/-- Whether a character may stand in a tag; commas and square brackets only in a
complete one. -/
def isTagChar (complete : Bool) (c : Char) : Bool :=
  isNameChar c || ";/?:@&=+$.%!~*'()".toList.contains c ||
    (complete && (c = ',' || c = '[' || c = ']'))

/-- How many bytes a character has that starts with a byte. -/
def octetCount? (n : Nat) : Option Nat :=
  if n < 0x80 then some 1
  else if 0xC0 ≤ n ∧ n < 0xE0 then some 2
  else if 0xE0 ≤ n ∧ n < 0xF0 then some 3
  else if 0xF0 ≤ n ∧ n < 0xF8 then some 4
  else none

/-- Reads escaped bytes, of which each but the first of a character continues
it. -/
def octets? : (count : Nat) → (isFirst : Bool) → List Char → Option (List UInt8 × List Char)
  | 0, _, cs => some ([], cs)
  | count + 1, isFirst, '%' :: a :: b :: cs =>
    match hexValue? a, hexValue? b with
    | some a, some b =>
      let n := 16 * a + b
      if !isFirst && (n < 0x80 || 0xC0 ≤ n) then none
      else (octets? count false cs).map fun (bs, rest) => (n.toUInt8 :: bs, rest)
    | _, _ => none
  | _, _, _ => none

/-- Reads an escaped character: its bytes, and what follows. -/
def escapedOctets? (cs : List Char) : Option (List UInt8 × List Char) :=
  match cs with
  | '%' :: a :: b :: _ =>
    match hexValue? a, hexValue? b with
    | some a, some b =>
      match octetCount? (16 * a + b) with
      | some count => octets? count true cs
      | none => none
    | _, _ => none
  | _ => none

/-- Reads the characters of a tag as bytes, `fuel` bounding their count. -/
def tagOctets? (complete : Bool) : (fuel : Nat) → List Char → Option (List UInt8 × List Char)
  | 0, cs => some ([], cs)
  | _ + 1, [] => some ([], [])
  | fuel + 1, c :: cs =>
    if !isTagChar complete c then some ([], c :: cs)
    else if c = '%' then
      match escapedOctets? (c :: cs) with
      | some (bs, rest) => (tagOctets? complete fuel rest).map fun (ds, rest) => (bs ++ ds, rest)
      | none => none
    else (tagOctets? complete fuel cs).map fun (ds, rest) => (c.toNat.toUInt8 :: ds, rest)

/-- Reads the rest of a tag behind its first characters, of which an exclamation
mark does not count; one of the two must not be empty. -/
def tagRest? (complete : Bool) (front : List Char) (c : Cursor) : Option (String × Cursor) :=
  match tagOctets? complete (c.rest.length + 1) c.rest with
  | none => none
  | some (bs, rest) =>
    let front' := (String.ofList (front.drop 1)).toUTF8.toList
    if front.isEmpty && bs.isEmpty then none
    else
      match String.fromUTF8? ⟨(front' ++ bs).toArray⟩ with
      | some s => some (s, c.skip (c.rest.length - rest.length))
      | none => none

/-- Reads a handle, or as much as looks like one. -/
def tagHandle? (c : Cursor) : Option (List Char × Cursor) :=
  match c.rest with
  | '!' :: _ =>
    let (name, after) := (c.skip 1).takeWhile isNameChar
    match after.rest with
    | '!' :: _ => some ('!' :: name ++ ['!'], after.skip 1)
    | _ => some ('!' :: name, after)
  | _ => none

/-! ### Tags of nodes -/

/-- A tag as it is written. -/
structure Tag where
  /-- The handle; it is empty for a complete tag. -/
  handle : String
  /-- The rest of the name. -/
  suffix : String
  deriving DecidableEq, Repr

/-- Whether a text that looks like a handle is one with a name. -/
def isNamedHandle (cs : List Char) : Bool := 1 < cs.length && cs.getLast? = some '!'

/-- Reads a tag, which must end in a blank, a line end, or inside of brackets a
comma. -/
def Tag.read? (flow : Bool) (c : Cursor) : Option (Tag × Cursor) :=
  let found : Option (Tag × Cursor) :=
    match c.rest with
    | '!' :: '<' :: _ =>
      match tagRest? true [] (c.skip 2) with
      | some (s, after) => if after.rest.head? = some '>' then some (⟨"", s⟩, after.skip 1) else none
      | none => none
    | _ =>
      match tagHandle? c with
      | none => none
      | some (handle, after) =>
        -- what looked like a handle may be the front of the tag itself
        if isNamedHandle handle then
          (tagRest? false [] after).map fun (s, after) => (⟨String.ofList handle, s⟩, after)
        else
          (tagRest? false handle after).map fun (s, after) =>
            (if s.isEmpty then ⟨"", "!"⟩ else ⟨"!", s⟩, after)
  match found with
  | some (tag, after) =>
    if atGap after.rest || (flow && after.rest.head? = some ',') then some (tag, after) else none
  | none => none

/-! ### Anchors -/

/-- Whether a character may follow the name of an anchor. -/
def endsAnchor : List Char → Bool
  | [] => true
  | c :: _ => isGap c || isBreak c || "?:,]\x7d%@\x60".toList.contains c

/-- Reads the name of an anchor behind its mark. -/
def anchorName? (c : Cursor) : Option (String × Cursor) :=
  let (name, after) := c.takeWhile isNameChar
  if name.isEmpty || !endsAnchor after.rest then none else some (String.ofList name, after)

/-! ### Directives -/

/-- A directive in front of a document. -/
inductive Directive where
  /-- The version of the notation. -/
  | version (major minor : Nat)
  /-- What a handle stands for. -/
  | tag (handle : String) (stem : String)
  deriving DecidableEq, Repr

/-- Reads a number of at most nine digits. -/
def versionNumber? (c : Cursor) : Option (Nat × Cursor) :=
  let (ds, after) := c.takeWhile Char.isDigit
  if ds.isEmpty || 9 < ds.length then none
  else some (ds.foldl (fun n d => 10 * n + (d.toNat - 48)) 0, after)

/-- Reads the value of a directive of the version. -/
def versionDirective? (c : Cursor) : Option (Directive × Cursor) :=
  match versionNumber? (c.skipWhile isGap) with
  | none => none
  | some (major, c) =>
    if c.rest.head? = some '.' then
      (versionNumber? (c.skip 1)).map fun (minor, c) => (.version major minor, c)
    else none

/-- Reads the value of a directive of a handle. -/
def tagDirective? (c : Cursor) : Option (Directive × Cursor) :=
  match tagHandle? (c.skipWhile isGap) with
  | none => none
  | some (handle, c) =>
    if (handle ≠ ['!'] ∧ !isNamedHandle handle) ∨ !c.rest.head?.any isGap then none
    else
      match tagRest? true [] (c.skipWhile isGap) with
      | some (stem, c) => if atGap c.rest then some (.tag (String.ofList handle) stem, c) else none
      | none => none

/-- Reads a directive behind its mark, up to the end of its line. -/
def Directive.read? (c : Cursor) : Option (Directive × Cursor) :=
  let (name, after) := c.takeWhile isNameChar
  let found : Option (Directive × Cursor) :=
    if !atGap after.rest then none
    else if name = "YAML".toList then versionDirective? after
    else if name = "TAG".toList then tagDirective? after
    else none
  match found with
  | some (d, after) => after.skipLineRest?.map fun after => (d, after)
  | none => none

end CancellationPolicy.Yaml
