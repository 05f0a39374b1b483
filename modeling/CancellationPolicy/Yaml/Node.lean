import CancellationPolicy.Keyed
import CancellationPolicy.Yaml.Token

/-! # Nodes

A document is a node: a scalar, a list of nodes or a mapping between nodes. A
node may have a name, by which it can be meant again behind its start
(`Node.reference`).

Names are numbered. A name that a node gets has as its number the count of
different names met before, so that a name that is given again shares its number
with the next new one. A number means the last node of a document that got it.

`Document.read?` reads the one document that a text may hold.
-/

namespace CancellationPolicy.Yaml

/-- A part of a document. -/
inductive Node where
  /-- A scalar. -/
  | scalar (tag : Option String) (style : Style) (text : String)
  /-- A list. -/
  | sequence (tag : Option String) (items : List Node)
  /-- A mapping; keys may be any nodes, and may be repeated. -/
  | mapping (tag : Option String) (entries : List (Node × Node))
  /-- The node that a number means. -/
  | reference (number : Nat)

/-- A document: its node, and the nodes that have numbers, the last first. -/
structure Document where
  /-- The node. -/
  root : Node
  /-- The numbered nodes. -/
  numbered : List (Nat × Node)

namespace Node

/-- The node without text. -/
def blank : Node := .scalar none .plain ""

instance : Inhabited Node := ⟨blank⟩

/-! ### Size -/

mutual

/-- The size of a node: one for a scalar or a reference, and two more than its parts
for a list or a mapping. -/
def size : Node → Nat
  | scalar .. => 1
  | sequence _ xs => 2 + sizeItems xs
  | mapping _ es => 2 + sizeEntries es
  | reference _ => 1

/-- The size of a list of nodes. -/
def sizeItems : List Node → Nat
  | [] => 0
  | x :: xs => x.size + sizeItems xs

/-- The size of a list of entries. -/
def sizeEntries : List (Node × Node) → Nat
  | [] => 0
  | (k, v) :: es => k.size + v.size + sizeEntries es

end

/-! ### Names -/

/-- The names of nodes and the handles of tags that are known at a place of a
document. -/
structure Names where
  /-- The names of nodes and their numbers. -/
  numbers : Keyed Nat
  /-- The numbers of nodes that have started, the last first, with the node once it
  has ended. -/
  numbered : List (Nat × Option Node)
  /-- The handles of tags. -/
  handles : List (String × String)

namespace Names

/-- Notes that a node starts, which may have a name. -/
def begin (names : Names) : Option String → Names
  | none => names
  | some a =>
    let n := names.numbers.length
    { names with
      numbers := Keyed.insert a n names.numbers
      numbered := (n, none) :: names.numbered }

/-- Notes that the node ends at whose start there were `before` numbered nodes. -/
def finish (names : Names) (anchor : Option String) (before : Nat) (node : Node) : Names :=
  match anchor with
  | none => names
  | some _ =>
    let place := names.numbered.length - before - 1
    { names with numbered := names.numbered.modify place fun n => (n.1, some node) }

/-- The node that a name means, if a node with the name has started. -/
def meant? (names : Names) (name : String) : Option Node :=
  (Keyed.find? name names.numbers).map .reference

/-- The full name of a tag; its handle must be known. -/
def resolve? (names : Names) (t : Tag) : Option String :=
  if t.handle = "" then some t.suffix
  else (names.handles.find? (·.1 = t.handle)).map fun h => h.2 ++ t.suffix

end Names

/-- What stands in front of the content of a node. -/
structure Properties where
  /-- The name. -/
  anchor : Option String
  /-- The tag. -/
  tag : Option Tag

/-- Reads a name and a tag, in either order. -/
def properties : List Token → Properties × List Token
  | .anchor a :: .tag t :: ts => (⟨some a, some t⟩, ts)
  | .tag t :: .anchor a :: ts => (⟨some a, some t⟩, ts)
  | .anchor a :: ts => (⟨some a, none⟩, ts)
  | .tag t :: ts => (⟨none, some t⟩, ts)
  | ts => (⟨none, none⟩, ts)

/-- The node of a scalar. A tag of one exclamation mark says nothing. -/
def ofScalar (tag : Option String) (style : Style) (text : String) : Node :=
  .scalar (if tag = some "!" then none else tag) style text

/-! ### Structures -/

/-- Whether a part of an indented structure is left out in front of a token. -/
def endsBlockPart (inMapping : Bool) : List Token → Bool
  | .blockEntry :: _ => !inMapping
  | .key :: _ => inMapping
  | .value :: _ => inMapping
  | .blockEnd :: _ => true
  | _ => false

/-- Whether an item of a list at the column of its key is left out in front of a
token. -/
def endsPlainItem : List Token → Bool
  | .blockEntry :: _ => true
  | .key :: _ => true
  | .value :: _ => true
  | .blockEnd :: _ => true
  | _ => false

/-- Whether a part of a bracketed mapping is left out in front of a token. -/
def endsFlowPart (close : Token) (beforeValue : Bool) : List Token → Bool
  | .value :: _ => beforeValue
  | .flowEntry :: _ => true
  | t :: _ => t == close
  | [] => false

/-- What a structure holds, and what follows it. -/
abbrev Reading (α : Type) := Option (α × Names × List Token)

/-- Passes over the comma in front of an item that is not the first; the text may
close the bracket instead. -/
def nextInFlow? (close : Token) (isFirst : Bool) (ts : List Token) : Option (List Token) :=
  if isFirst || ts.head? = some close then some ts
  else
    match ts with
    | .flowEntry :: rest => some rest
    | _ => none

mutual

/-- Reads a node. Indented structures may only stand in `block` places, and a list
at the column of its key only where it is the value of a mapping; `fuel` bounds
the count of steps. -/
def node? :
    (fuel : Nat) → (block atKey : Bool) → Names → List Token → Reading Node
  | 0, _, _, _, _ => none
  | fuel + 1, block, atKey, names, ts =>
    match ts with
    | .reference a :: rest => (names.meant? a).map fun x => (x, names, rest)
    | _ =>
      let (p, ts) := properties ts
      let tag? : Option (Option String) :=
        match p.tag with
        | none => some none
        | some t => (names.resolve? t).map some
      match tag? with
      | none => none
      | some tag =>
        let before := names.numbered.length
        let inner := names.begin p.anchor
        let close (x : Node) (names : Names) (ts : List Token) : Reading Node :=
          some (x, names.finish p.anchor before x, ts)
        let list (r : Reading (List Node)) : Reading Node :=
          match r with
          | some (xs, names, ts) => close (.sequence tag xs) names ts
          | none => none
        let map (r : Reading (List (Node × Node))) : Reading Node :=
          match r with
          | some (es, names, ts) => close (.mapping tag es) names ts
          | none => none
        match ts with
        | .scalar style text :: rest => close (ofScalar tag style text) inner rest
        | .flowSequenceStart :: rest => list (flowItems? fuel true inner rest)
        | .flowMappingStart :: rest => map (flowEntries? fuel true inner rest)
        | .blockEntry :: rest =>
          if atKey then list (plainItems? fuel inner (.blockEntry :: rest))
          -- only a name or a tag stands in front of the next item
          else if p.anchor.isSome || tag.isSome then
            close (.scalar tag .plain "") inner (.blockEntry :: rest)
          else none
        | .blockSequenceStart :: rest =>
          if block then list (blockItems? fuel inner rest)
          else if p.anchor.isSome || tag.isSome then close (.scalar tag .plain "") inner ts
          else none
        | .blockMappingStart :: rest =>
          if block then map (blockEntries? fuel inner rest)
          else if p.anchor.isSome || tag.isSome then close (.scalar tag .plain "") inner ts
          else none
        | ts =>
          if p.anchor.isSome || tag.isSome then close (.scalar tag .plain "") inner ts else none

/-- Reads the items of an indented list up to its end. -/
def blockItems? : (fuel : Nat) → Names → List Token → Reading (List Node)
  | 0, _, _ => none
  | fuel + 1, names, ts =>
    match ts with
    | .blockEnd :: rest => some ([], names, rest)
    | .blockEntry :: rest =>
      let item :=
        if endsBlockPart false rest then some (blank, names, rest)
        else node? fuel true false names rest
      match item with
      | none => none
      | some (x, names, rest) =>
        match blockItems? fuel names rest with
        | none => none
        | some (xs, names, rest) => some (x :: xs, names, rest)
    | _ => none

/-- Reads the items of a list at the column of its key. -/
def plainItems? : (fuel : Nat) → Names → List Token → Reading (List Node)
  | 0, _, _ => none
  | fuel + 1, names, ts =>
    match ts with
    | .blockEntry :: rest =>
      let item :=
        if endsPlainItem rest then some (blank, names, rest)
        else node? fuel true false names rest
      match item with
      | none => none
      | some (x, names, rest) =>
        match plainItems? fuel names rest with
        | none => none
        | some (xs, names, rest) => some (x :: xs, names, rest)
    | ts => some ([], names, ts)

/-- Reads the entries of an indented mapping up to its end. -/
def blockEntries? : (fuel : Nat) → Names → List Token → Reading (List (Node × Node))
  | 0, _, _ => none
  | fuel + 1, names, ts =>
    match ts with
    | .blockEnd :: rest => some ([], names, rest)
    | .key :: rest =>
      let key :=
        if endsBlockPart true rest then some (blank, names, rest)
        else node? fuel true true names rest
      match key with
      | none => none
      | some (k, names, rest) =>
        let value :=
          match rest with
          | .value :: rest =>
            if endsBlockPart true rest then some (blank, names, rest)
            else node? fuel true true names rest
          | rest => some (blank, names, rest)
        match value with
        | none => none
        | some (v, names, rest) =>
          match blockEntries? fuel names rest with
          | none => none
          | some (es, names, rest) => some ((k, v) :: es, names, rest)
    | _ => none

/-- Reads the items of a bracketed list up to its closing bracket. A pair of key
and value without braces is a mapping of its own. -/
def flowItems? : (fuel : Nat) → (isFirst : Bool) → Names → List Token → Reading (List Node)
  | 0, _, _, _ => none
  | fuel + 1, isFirst, names, ts =>
    match nextInFlow? .flowSequenceEnd isFirst ts with
    | none => none
    | some (.flowSequenceEnd :: rest) => some ([], names, rest)
    | some ts =>
      let item :=
        match ts with
        | .key :: rest => pair? fuel names rest
        | ts => node? fuel false false names ts
      match item with
      | none => none
      | some (x, names, rest) =>
        match flowItems? fuel false names rest with
        | none => none
        | some (xs, names, rest) => some (x :: xs, names, rest)

/-- Reads a pair of key and value in a bracketed list. A token in place of the key
is passed over. -/
def pair? : (fuel : Nat) → Names → List Token → Reading Node
  | 0, _, _ => none
  | fuel + 1, names, ts =>
    let key :=
      -- the token is passed over whatever it is, also the bracket that closes the list
      if endsFlowPart .flowSequenceEnd true ts then some (blank, names, ts.drop 1)
      else node? fuel false false names ts
    match key with
    | none => none
    | some (k, names, rest) =>
      let value :=
        match rest with
        | .value :: rest =>
          if endsFlowPart .flowSequenceEnd false rest then some (blank, names, rest)
          else node? fuel false false names rest
        | rest => some (blank, names, rest)
      match value with
      | none => none
      | some (v, names, rest) => some (.mapping none [(k, v)], names, rest)

/-- Reads the entries of a bracketed mapping up to its closing brace. -/
def flowEntries? :
    (fuel : Nat) → (isFirst : Bool) → Names → List Token → Reading (List (Node × Node))
  | 0, _, _, _ => none
  | fuel + 1, isFirst, names, ts =>
    match nextInFlow? .flowMappingEnd isFirst ts with
    | none => none
    | some (.flowMappingEnd :: rest) => some ([], names, rest)
    | some ts =>
      let entry : Reading (Node × Node) :=
        match ts with
        | .key :: rest =>
          let key :=
            if endsFlowPart .flowMappingEnd true rest then some (blank, names, rest)
            else node? fuel false false names rest
          match key with
          | none => none
          | some (k, names, rest) =>
            let value :=
              match rest with
              | .value :: rest =>
                if endsFlowPart .flowMappingEnd false rest then some (blank, names, rest)
                else node? fuel false false names rest
              | rest => some (blank, names, rest)
            match value with
            | none => none
            | some (v, names, rest) => some ((k, v), names, rest)
        | ts =>
          match node? fuel false false names ts with
          | none => none
          | some (k, names, rest) => some ((k, blank), names, rest)
      match entry with
      | none => none
      | some (e, names, rest) =>
        match flowEntries? fuel false names rest with
        | none => none
        | some (es, names, rest) => some (e :: es, names, rest)

end

/-! ### Documents -/

/-- Reads directives: at most one of the version, which must be known, and at most
one for every handle. -/
def directives? (versioned : Bool) (handles : List (String × String)) :
    List Token → Option (List (String × String) × List Token)
  | .directive (.version major minor) :: ts =>
    if versioned || major ≠ 1 || (minor ≠ 1 && minor ≠ 2) then none
    else directives? true handles ts
  | .directive (.tag h stem) :: ts =>
    if handles.any (·.1 = h) then none else directives? versioned (handles ++ [(h, stem)]) ts
  | ts => some (handles, ts)

/-- What handles stand for unless a directive says otherwise. -/
def standardHandles : List (String × String) := [("!", "!"), ("!!", "tag:yaml.org,2002:")]

/-- Whether the content of a document is left out in front of a token. -/
def endsDocument : List Token → Bool
  | [] => true
  | .directive _ :: _ => true
  | .documentStart :: _ => true
  | .documentEnd :: _ => true
  | _ => false

/-- Reads a document, and what follows it. -/
def document? (ts : List Token) : Option (Document × List Token) :=
  let fuel := 3 * ts.length + 3
  let content (handles : List (String × String)) (ts : List Token) : Option (Document × List Token) :=
    if endsDocument ts then some (⟨blank, []⟩, ts)
    else
      (node? fuel true false ⟨[], [], handles ++ standardHandles⟩ ts).map fun (x, names, rest) =>
        (⟨x, names.numbered.filterMap fun (n, x) => x.map fun x => (n, x)⟩, rest)
  match ts with
  | [] => none
  -- without directives there are only the standard handles
  | .documentStart :: rest => content [] rest
  | .directive d :: rest =>
    match directives? false [] (.directive d :: rest) with
    | some (handles, .documentStart :: rest) => content handles rest
    | _ => none
  | .documentEnd :: _ => none
  | ts => content [] ts

end Node

/-- Reads a text that holds one document. -/
def Document.read? (text : String) : Option Document :=
  match (tokens? text).bind Node.document? with
  | some (x, rest) => if rest.all (· == .documentEnd) then some x else none
  | none => none

end CancellationPolicy.Yaml
