import CancellationPolicy.Pattern.Atom

/-! # Bracketed classes

A bracketed class lists characters, ranges and classes, and joins such lists by
intersection, difference and symmetric difference, which are read from left to
right. Brackets may be nested. Where case does not count, both sides of an
operation are closed under case, and so is the whole class before it is
negated.
-/

namespace CancellationPolicy.Pattern

namespace Bracket

/-- A class that has been read, with the depth of its nesting. -/
structure Part where
  /-- The members. -/
  set : CharSet
  /-- The depth of nesting. -/
  depth : Nat

/-- How two lists are joined. -/
inductive Op where
  /-- Members of both. -/
  | both
  /-- Members of the first that are not in the second. -/
  | less
  /-- Members of one of the two. -/
  | either
  deriving DecidableEq, Repr

/-- The members of two joined lists. -/
def Op.apply : Op → CharSet → CharSet → CharSet
  | both, s, t => s ∩ t
  | less, s, t => s \ t
  | either, s, t => s.symmDiff t

/-! ### Lists -/

/-- A list that is being read. -/
structure Listing where
  /-- The members so far. -/
  set : CharSet
  /-- How many items the list has. -/
  size : Nat
  /-- The greatest depth of an item. -/
  depth : Nat

/-- The list without items. -/
def Listing.new : Listing := ⟨∅, 0, 0⟩

/-- The list with a further item. -/
def Listing.add (l : Listing) (x : Part) : Listing :=
  ⟨l.set ∪ x.set, l.size + 1, max l.depth x.depth⟩

/-- The list as a whole; several items are one level deeper than one. -/
def Listing.part (l : Listing) : Part := ⟨l.set, if l.size < 2 then l.depth else l.depth + 1⟩

/-- Joins what is in front of an operation with the list behind it. -/
def join (m : Mode) (left : Option (Part × Op)) (l : Listing) : Part :=
  match left with
  | none => l.part
  | some (x, op) =>
    let y := l.part
    ⟨op.apply (m.fold x.set) (m.fold y.set), max x.depth y.depth + 1⟩

/-! ### Items -/

/-- The classes of ASCII characters that have names. -/
def asciiClass? (name : String) : Option CharSet :=
  if name = "alnum" then some (.ofRanges [(48, 57), (65, 90), (97, 122)])
  else if name = "alpha" then some (.ofRanges [(65, 90), (97, 122)])
  else if name = "ascii" then some (.range 0 127)
  else if name = "blank" then some (.ofRanges [(9, 9), (32, 32)])
  else if name = "cntrl" then some (.ofRanges [(0, 31), (127, 127)])
  else if name = "digit" then some (.range 48 57)
  else if name = "graph" then some (.range 33 126)
  else if name = "lower" then some (.range 97 122)
  else if name = "print" then some (.range 32 126)
  else if name = "punct" then some (.ofRanges [(33, 47), (58, 64), (91, 96), (123, 126)])
  else if name = "space" then some (.ofRanges [(9, 13), (32, 32)])
  else if name = "upper" then some (.range 65 90)
  else if name = "word" then some (.ofRanges [(48, 57), (65, 90), (95, 95), (97, 122)])
  else if name = "xdigit" then some (.ofRanges [(48, 57), (65, 70), (97, 102)])
  else none

/-- Reads a class with a name behind its opening bracket: whether it is negated,
the class, and what follows. -/
def named? : List Char → Option (Bool × CharSet × List Char)
  | ':' :: cs =>
    let (negated, cs) := match cs with
      | '^' :: rest => (true, rest)
      | rest => (false, rest)
    match cs.dropWhile (· != ':') with
    | ':' :: ']' :: rest =>
      (asciiClass? (String.ofList (cs.takeWhile (· != ':')))).map fun s => (negated, s, rest)
    | _ => none
  | _ => none

/-- Reads an atom of a list. -/
def atom? (m : Mode) : List Char → Option (Atom × List Char)
  | [] => none
  | '\\' :: cs => Atom.escape? m cs
  | c :: cs => some (.literal c false, cs)

/-- The number of an atom that may bound a range. Where classes are those of
ASCII it is an ASCII character. -/
def bound? (m : Mode) : Atom → Option Nat
  | .literal c _ => if m.unicode || c.toNat < 128 then some c.toNat else none
  | _ => none

/-- The members of an atom that is an item by itself. -/
def single? (m : Mode) : Atom → Option CharSet
  | .members s => some s
  | a => (bound? m a).map CharSet.single

/-- Reads an atom or a range. A hyphen in front of the end of the list or of
another hyphen starts no range. -/
def item? (m : Mode) (cs : List Char) : Option (CharSet × List Char) :=
  match atom? m cs with
  | none => none
  | some (a, rest) =>
    match m.skip rest with
    | [] => none
    | '-' :: rest =>
      -- the hyphen stands for itself, and is read as the next item
      if m.peek? rest = some ']' ∨ m.peek? rest = some '-' then
        (single? m a).map fun s => (s, '-' :: rest)
      else
        match atom? m (m.skip rest) with
        | none => none
        | some (b, rest) =>
          match bound? m a, bound? m b with
          | some lo, some hi => if lo ≤ hi then some (CharSet.range lo hi, rest) else none
          | _, _ => none
    | rest => (single? m a).map fun s => (s, rest)

/-- Reads the hyphens at the front of a list, which stand for themselves. -/
def hyphens (m : Mode) : (fuel : Nat) → Listing → List Char → Listing × List Char
  | 0, l, cs => (l, cs)
  | fuel + 1, l, cs =>
    match cs with
    | '-' :: rest => hyphens m fuel (l.add ⟨CharSet.single 45, 0⟩) (m.skip rest)
    | cs => (l, cs)

/-- Reads what stands at the front of a class: a mark of negation, and hyphens or
a closing bracket that stand for themselves. -/
def front (m : Mode) (cs : List Char) : Bool × Listing × List Char :=
  let (negated, cs) := match m.skip cs with
    | '^' :: rest => (true, m.skip rest)
    | rest => (false, rest)
  let (l, cs) := hyphens m (cs.length + 1) .new cs
  match l.size, cs with
  | 0, ']' :: rest => (negated, l.add ⟨CharSet.single 93, 0⟩, m.skip rest)
  | _, cs => (negated, l, cs)

/-- Reads a class behind its front, up to its closing bracket; `fuel` bounds the
count of steps. -/
def body? (m : Mode) :
    (fuel : Nat) → (negated : Bool) → Option (Part × Op) → Listing → List Char →
      Option (Part × List Char)
  | 0, _, _, _, _ => none
  | fuel + 1, negated, left, l, cs =>
    match m.skip cs with
    | [] => none
    | ']' :: rest =>
      let whole := join m left l
      (m.class? negated (m.fold whole.set)).map fun s => (⟨s, whole.depth + 1⟩, rest)
    | '&' :: '&' :: rest => body? m fuel negated (some (join m left l, .both)) .new rest
    | '-' :: '-' :: rest => body? m fuel negated (some (join m left l, .less)) .new rest
    | '~' :: '~' :: rest => body? m fuel negated (some (join m left l, .either)) .new rest
    | '[' :: rest =>
      match named? rest with
      -- a class with a name
      | some (inner, s, rest) =>
        match m.class? inner (m.fold s) with
        | some s => body? m fuel negated left (l.add ⟨s, 0⟩) rest
        | none => none
      | none =>
        -- a class in brackets of its own
        let (inner, first, rest) := front m rest
        match body? m fuel inner none first rest with
        | some (x, rest) => body? m fuel negated left (l.add x) rest
        | none => none
    | rest =>
      match item? m rest with
      | some (s, rest) => body? m fuel negated left (l.add ⟨s, 0⟩) rest
      | none => none

end Bracket

/-- Reads a class behind its opening bracket: the class, the depth of its
nesting, and what follows. -/
def bracket? (m : Mode) (cs : List Char) : Option (Bracket.Part × List Char) :=
  let (negated, first, rest) := Bracket.front m cs
  Bracket.body? m (cs.length + 1) negated none first rest

end CancellationPolicy.Pattern
