import CancellationPolicy.Pattern.Basic

/-! # Forms of patterns

Programs are not made from a pattern as it is written, but from its form
(`Pattern.form`), in which what is written in several ways looks alike:

* characters one behind another are one text, and rows in a row are one row;
* forks in a fork are one fork, and a fork of single characters, or of sets, is
  one set;
* what all branches of a fork begin with stands once, in front of the fork.
-/

namespace CancellationPolicy.Pattern

/-- A pattern as programs are made from it. No part of a row is a row or empty,
no text stands next to a text, no branch of a fork is a fork, and a set that has
one member is a text. -/
inductive Form where
  /-- The empty text. -/
  | empty
  /-- Code points one behind another. -/
  | text (points : List Nat)
  /-- One character of a set. -/
  | set (members : CharSet)
  /-- The empty text at a place that meets a condition. -/
  | assertion (condition : Assertion)
  /-- A text that is kept. -/
  | group (body : Form)
  /-- A row: a part, and the parts behind it. -/
  | cat (first rest : Form)
  /-- A fork: a branch, and the branches after it. -/
  | alt (first rest : Form)
  /-- A form from `least` to `most` times. -/
  | repeated (least : Nat) (most : Option Nat) (greedy : Bool) (body : Form)
  deriving DecidableEq, Repr

namespace Form

/-- The form of one character of a set. -/
def ofSet (s : CharSet) : Form :=
  match s.switches with
  | [lo, hi] => if hi = lo + 1 then text [lo] else set s
  | _ => set s

/-- Whether a group is kept somewhere in the form. -/
def hasGroup : Form → Bool
  | group _ => true
  | cat p q | alt p q => p.hasGroup || q.hasGroup
  | repeated _ _ _ p => p.hasGroup
  | _ => false

/-! ### Rows -/

/-- The parts of a form that is taken as a row. -/
def parts : Form → List Form
  | empty => []
  | cat p q => p :: q.parts
  | p => [p]

/-- The row of parts. -/
def ofParts : List Form → Form
  | [] => empty
  | [p] => p
  | p :: ps => cat p (ofParts ps)

/-- A part in front of others; two texts become one. -/
def glue : Form → List Form → List Form
  | text cs, text ds :: ps => text (cs ++ ds) :: ps
  | p, ps => p :: ps

/-- The parts of a form in front of others. -/
def before (p : Form) (rest : List Form) : List Form := p.parts.foldr glue rest

/-! ### Forks -/

/-- The branches of a form that is taken as a fork. -/
def branches : Form → List Form
  | alt p q => p :: q.branches
  | p => [p]

/-- The fork of branches. -/
def ofBranches : List Form → Form
  | [] => set ∅
  | [p] => p
  | p :: ps => alt p (ofBranches ps)

/-- The set of a form that is a single character. -/
def single? : Form → Option CharSet
  | text [c] => some (.single c)
  | _ => none

/-- The set of a form that is one character of a set. -/
def set? : Form → Option CharSet
  | set s => some s
  | _ => none

/-- One set for branches that are all single characters, or all sets. -/
def merged? (bs : List Form) : Option Form :=
  (bs.mapM single? <|> bs.mapM set?).map fun ss => ofSet (ss.foldl (· ∪ ·) ∅)

/-- The fork of forms. -/
def plainFork (ps : List Form) : Form :=
  let bs := ps.flatMap branches
  (merged? bs).getD (ofBranches bs)

/-- The parts of a form that is a row of several. -/
def row? : Form → Option (List Form)
  | cat p q => some (p :: q.parts)
  | _ => none

/-- What two rows begin with. No group is the same as another, since each is kept
on its own. -/
def common : List Form → List Form → List Form
  | p :: ps, q :: qs => if p = q ∧ !p.hasGroup then p :: common ps qs else []
  | _, _ => []

/-- The fork of branches that are all rows, behind what all of them begin with.
What is left of the branches begins with nothing in common. -/
def lifted? (bs : List Form) : Option Form :=
  match bs.mapM row? with
  | some (row :: rows) =>
    match rows.foldl common row with
    | [] => none
    | front =>
      let rests := (row :: rows).map fun ps => ofParts (ps.drop front.length)
      some (ofParts (front.foldr glue ((plainFork rests).before [])))
  | _ => none

/-- The fork of forms, behind what all its branches begin with. -/
def fork (ps : List Form) : Form :=
  let bs := ps.flatMap branches
  (merged? bs <|> lifted? bs).getD (ofBranches bs)

/-- How forms are joined. -/
inductive Joint where
  /-- One behind another. -/
  | row
  /-- Either of several. -/
  | fork
  deriving DecidableEq, Repr

/-- A form joined to those behind it. -/
def join : Joint → Form → List Form → List Form
  | .row, p, rest => p.before rest
  | .fork, p, rest => p :: rest

end Form

/-- The parts, or the branches, of a pattern in front of others. -/
def forms : Form.Joint → Pattern → List Form → List Form
  | joint, empty, rest => Form.join joint .empty rest
  | joint, chars s, rest => Form.join joint (.ofSet s) rest
  | joint, assertion a, rest => Form.join joint (.assertion a) rest
  | joint, group _ p, rest => Form.join joint (.group (.ofParts (forms .row p []))) rest
  | .row, cat p q, rest => forms .row p (forms .row q rest)
  | .fork, cat p q, rest => .ofParts (forms .row p (forms .row q [])) :: rest
  | .row, alt p q, rest => (Form.fork (forms .fork p [.ofParts (forms .row q [])])).before rest
  | .fork, alt p q, rest => forms .fork p (.ofParts (forms .row q []) :: rest)
  | joint, repeated least most greedy p, rest =>
    Form.join joint (.repeated least most greedy (.ofParts (forms .row p []))) rest

/-- The form of a pattern. -/
def form (p : Pattern) : Form := .ofParts (p.forms .row [])

end CancellationPolicy.Pattern
