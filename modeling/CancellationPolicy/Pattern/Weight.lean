import CancellationPolicy.Pattern.Form

/-! # Weight of patterns

The weight of a pattern is the room in bytes that a matching program for its form
takes. There are two programs, one that reads a text forwards and one that reads
it backwards; a pattern fits a limit if both do (`Pattern.fits`).

A program is a graph of states. A state takes 32 bytes, a labelled transition 8
and a further branch 4. Programs work on the bytes of the text, so that a class
beyond ASCII is a graph of its own. Forwards, equal ends of byte sequences are
shared, and backwards equal beginnings (`Octets.forwardWeight`,
`Octets.backwardWeight`). A fork of nothing but texts is a tree, in which equal
beginnings of the texts, as they are read, are shared (`Octets.treeWeight`).
-/

namespace CancellationPolicy

/-! ### Classes as byte sequences -/

namespace Octets

/-- A sequence of byte ranges, one for every byte of a character. -/
abbrev Row := List (Nat × Nat)

/-- Cuts a range behind its first block of a size, if it reaches beyond the
block. -/
def cutFront (size : Nat) (r : Nat × Nat) : List (Nat × Nat) :=
  if r.1 / size = r.2 / size ∨ r.1 % size = 0 then [r]
  else
    let edge := (r.1 / size + 1) * size
    [(r.1, edge - 1), (edge, r.2)]

/-- Cuts a range in front of its last block of a size, if it starts before the
block. -/
def cutBack (size : Nat) (r : Nat × Nat) : List (Nat × Nat) :=
  if r.1 / size = r.2 / size ∨ (r.2 + 1) % size = 0 then [r]
  else
    let edge := r.2 / size * size
    [(r.1, edge - 1), (edge, r.2)]

/-- Cuts a range in front of a point inside it. -/
def cutAt (point : Nat) (r : Nat × Nat) : List (Nat × Nat) :=
  if r.1 < point ∧ point ≤ r.2 then [(r.1, point - 1), (point, r.2)] else [r]

/-- The bytes of a code point. -/
def encode (c : Nat) : List Nat :=
  if c < 0x80 then [c]
  else if c < 0x800 then [0xC0 + c / 64, 0x80 + c % 64]
  else if c < 0x10000 then [0xE0 + c / 4096, 0x80 + c / 64 % 64, 0x80 + c % 64]
  else [0xF0 + c / 262144, 0x80 + c / 4096 % 64, 0x80 + c / 64 % 64, 0x80 + c % 64]

/-- The byte sequences of the code points of a set, in increasing order. -/
def rows (s : CharSet) : List Row :=
  let parts := s.toRanges.flatMap fun r =>
    ((cutAt 0x80 r).flatMap (cutAt 0x800)).flatMap (cutAt 0x10000)
  let parts := [64, 4096, 262144].foldl
    (fun ps size => ps.flatMap fun r =>
      if r.2 < 0x80 then [r] else (cutFront size r).flatMap (cutBack size)) parts
  parts.map fun r => (encode r.1).zip (encode r.2)

/-! ### Sharing -/

/-- A state: its transitions, each to a state with a number. -/
abbrev Node := List ((Nat × Nat) × Nat)

/-- The number of a state among those that exist, which it joins if it is new. -/
def number (node : Node) (nodes : List Node) : Nat × List Node :=
  match nodes.findIdx? (· == node) with
  | some i => (nodes.length - i, nodes)
  | none => (nodes.length + 1, node :: nodes)

/-- Groups neighbouring rows with the same first range, and takes the range off. -/
def grouped : List Row → List ((Nat × Nat) × List Row)
  | [] => []
  | [] :: rest => grouped rest
  | (r :: row) :: rest =>
    match grouped rest with
    | (q, group) :: groups =>
      if q = r then (q, (row :: group)) :: groups else (r, [row]) :: (q, group) :: groups
    | [] => [(r, [row])]

/-- The state at which rows start, all states with the same transitions being
one; state zero is the last. -/
def share : (depth : Nat) → List Row → List Node → Nat × List Node
  | 0, _, nodes => (0, nodes)
  | depth + 1, rs, nodes =>
    match grouped rs with
    | [] => (0, nodes)
    | groups =>
      let (node, nodes) := groups.foldl
        (fun (node, nodes) group =>
          let (n, nodes) := share depth group.2 nodes
          (node ++ [(group.1, n)], nodes)) (([] : Node), nodes)
      number node nodes

/-- The room of a class forwards. -/
def forwardWeight (rs : List Row) : Nat :=
  let nodes := (share 5 rs []).2
  nodes.foldl (fun weight node => weight + 32 + 8 * node.length) 32

/-- How many different beginnings of rows there are. -/
def beginnings : (depth : Nat) → List Row → Nat
  | 0, _ => 0
  | depth + 1, rs =>
    (grouped rs).foldl (fun count group => count + 1 + beginnings depth group.2) 0

/-- The room of a class backwards. -/
def backwardWeight (rs : List Row) : Nat :=
  64 + 4 * rs.length + 32 * beginnings 5 rs

/-! ### Trees of texts -/

/-- Bytes to read, one behind another. -/
abbrev Word := List Nat

/-- Puts the rest of a word into the group of its first byte, in front of the rest
of the group. -/
def insertWord (b : Nat) (word : Word) : List (Nat × List Word) → List (Nat × List Word)
  | [] => [(b, [word])]
  | (c, words) :: groups =>
    if c = b then (c, word :: words) :: groups else (c, words) :: insertWord b word groups

/-- The words in front of the first empty one and those behind it, the former by
their first bytes. -/
def untilEmpty : List Word → List (Nat × List Word) × Option (List Word)
  | [] => ([], none)
  | [] :: rest => ([], some rest)
  | (b :: word) :: rest =>
    let (groups, behind) := untilEmpty rest
    (insertWord b word groups, behind)

/-- The groups of words between the empty ones, at most `fuel` + 1 times. An empty
word ends the text of a branch, which comes before the branches behind it. -/
def between : (fuel : Nat) → List Word → List (List (Nat × List Word))
  | 0, words => [(untilEmpty words).1]
  | fuel + 1, words =>
    match untilEmpty words with
    | (groups, none) => [groups]
    | (groups, some rest) => groups :: between fuel rest

/-- The room of the states of a tree behind its root, where `depth` bounds the
length of the words. Where no word goes on, there is no state. -/
def treeWeight : (depth : Nat) → List Word → Nat
  | 0, _ => 0
  | depth + 1, words =>
    match words.dropWhile (·.isEmpty) with
    | [] => 0
    | later =>
      let chunks := between later.length later
      let ends := chunks.length - 1 + if later.length < words.length then 1 else 0
      let labelled := chunks.filter (!·.isEmpty)
      labelled.foldl
        (fun weight groups => groups.foldl (fun weight group => weight + treeWeight depth group.2)
          (weight + if groups.length = 1 then 32 else 32 + 8 * groups.length))
        (32 + 4 * (ends + labelled.length))

end Octets

/-! ### Patterns -/

namespace Pattern

/-- The two programs of a pattern. -/
inductive Direction where
  /-- Reads a text forwards, and keeps the groups. -/
  | forward
  /-- Reads a text backwards. -/
  | backward
  deriving DecidableEq, Repr

namespace Form

/-- The room of a class. -/
def classWeight (d : Direction) (s : CharSet) : Nat :=
  if s.isAscii then 64 + 8 * s.toRanges.length
  else
    let rs := Octets.rows s
    match d with
    | .forward => Octets.forwardWeight rs
    | .backward => Octets.backwardWeight rs

/-- Whether every match takes some of the text; not answered if there is no
match. -/
def takesText? : Form → Option Bool
  | empty => some false
  | text _ => some true
  | set s => if s.isEmpty then none else some true
  | assertion _ => some false
  | group p => p.takesText?
  | cat p q => do return (← p.takesText?) || (← q.takesText?)
  | alt p q => do return (← p.takesText?) && (← q.takesText?)
  | repeated least _ _ p => p.takesText?.map (least != 0 && ·)

/-- Whether the form matches nothing but the empty text. -/
def isZeroWidth : Form → Bool
  | empty | assertion _ => true
  | text _ | set _ => false
  | group p | repeated _ _ _ p => p.isZeroWidth
  | cat p q | alt p q => p.isZeroWidth && q.isZeroWidth

/-- The room of a repetition of a body with a room, every match of which takes
text or not. -/
def repeatWeight (body : Nat) (takesText : Bool) (least : Nat) : Option Nat → Nat
  | none =>
    if least = 0 then (if takesText then 40 + body else 32 + 40 + 40 + body)
    else least * body + 40
  | some most =>
    if least = 0 ∧ most = 1 then 32 + 40 + body
    else if most = least then least * body
    else (if least = 0 then 32 else least * body) + 32 + (most - least) * (40 + body)

/-- The bytes of a text. -/
def bytes (points : List Nat) : List Nat := points.flatMap Octets.encode

/-- The bytes of a form that is a text, in the order in which they are read. -/
def word? (d : Direction) : Form → Option Octets.Word
  | text cs => some (match d with
    | .forward => bytes cs
    | .backward => (bytes cs).reverse)
  | _ => none

/-- The room of a fork of nothing but texts. -/
def textsWeight (words : List Octets.Word) : Nat :=
  32 + Octets.treeWeight (words.foldl (fun n w => max n w.length) 0) words

/-- The room of the states of a form. The branches of a fork that has already begun
take no room for its beginning and its end. -/
def stateWeight (d : Direction) : (inFork : Bool) → Form → Nat
  | _, empty => 32
  | _, text cs => 32 * (bytes cs).length
  | _, set s => classWeight d s
  | _, assertion _ => 32
  | _, group p => (if d = .forward then 64 else 0) + p.stateWeight d false
  | _, cat p q => p.stateWeight d false + q.stateWeight d false
  | true, alt p q => 4 + p.stateWeight d false + q.stateWeight d true
  | false, alt p q =>
    match (branches (alt p q)).mapM (word? d) with
    | some words => textsWeight words
    | none => 64 + 4 + 4 + p.stateWeight d false + q.stateWeight d true
  | _, repeated least most _ p =>
    repeatWeight (p.stateWeight d false) (p.takesText? = some true) least most

/-- Whether no match can start behind the start of the text. -/
def startsText : Form → Bool
  | assertion .textStart => true
  | group p => p.startsText
  | cat p q => p.startsText || (p.isZeroWidth && q.startsText)
  | alt p q => p.startsText && q.startsText
  | repeated least _ _ p => least != 0 && p.startsText
  | _ => false

/-- Whether no match can end in front of the end of the text. -/
def endsText : Form → Bool
  | assertion .textEnd => true
  | group p => p.endsText
  | cat p q => q.endsText || (q.isZeroWidth && p.endsText)
  | alt p q => p.endsText && q.endsText
  | repeated least _ _ p => least != 0 && p.endsText
  | _ => false

/-- The room of a program: its states, its start and end, and, unless it is bound
to the end of the text where it starts, the states that move that start. -/
def weight (d : Direction) (p : Form) : Nat :=
  let frame := match d with
    | .forward => 96 + if p.startsText then 32 else 112
    | .backward => 32 + if p.endsText then 32 else 112
  frame + p.stateWeight d false

/-- Whether the form is a fork of so many texts that it is looked up in a table of
them, without a program. -/
def isTable (p : Form) : Bool :=
  3000 ≤ p.branches.length && (p.branches.mapM (word? .forward)).isSome

end Form

/-- Whether the programs of a pattern fit a limit. -/
def fits (p : Pattern) (limit : Nat) : Bool :=
  let form := p.form
  form.isTable || (form.weight .forward ≤ limit && form.weight .backward ≤ limit)

end Pattern

end CancellationPolicy
