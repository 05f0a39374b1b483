import CancellationPolicy.Expression
import CancellationPolicy.Pattern.Place
import CancellationPolicy.Span

/-! # Matching

`Pattern.ends` lists the places at which a match of a pattern that starts at a
given place can end, the preferred first and every place once. A match is the
first of them (`Pattern.matchAt?`), and a search takes the first place of the
text at which there is one (`Pattern.find?`). What matches at a place does not
depend on where the search started.

Rounds of a repetition are only started once at every place, so that matching
ends and takes no more than polynomial time.
-/

namespace CancellationPolicy

/-- A place that a match has come to, with the parts kept so far. -/
structure Progress where
  /-- The place. -/
  place : Place
  /-- The named parts kept so far. -/
  captures : Captures

namespace Progress

/-- The byte offset of the place. -/
def offset (s : Progress) : Nat := s.place.offset

/-- Keeps the text since an earlier place under a name. -/
def keep (s : Progress) (name : Option String) (start : Place) : Progress :=
  match name with
  | some n => { s with captures := Keyed.insert n (String.ofList (start.textUpTo s.offset)) s.captures }
  | none => s

/-! ### Distinct places -/

/-- The first of every group of entries at one place, `seen` being the set of
offsets passed. -/
def distinctFrom (seen : Nat) : List Progress → List Progress
  | [] => []
  | s :: ss =>
    if seen.testBit s.offset then distinctFrom seen ss
    else s :: distinctFrom (seen ||| 1 <<< s.offset) ss

/-- The first of every group of entries at one place. -/
def distinct : List Progress → List Progress
  | [] => []
  | [s] => [s]
  | ss => distinctFrom 0 ss

end Progress

namespace Pattern

/-! ### Repetition -/

/-- The ends of exactly `n` rounds, from each of several places. -/
def rounds (step : Progress → List Progress) : Nat → List Progress → List Progress
  | 0, ss => ss
  | n + 1, ss => rounds step n (Progress.distinct (ss.flatMap step))

/-- What a repetition has found: the offsets at which rounds have started and
ended, and the ends, the last first. -/
structure Loop where
  /-- The offsets at which a round has started, as bits. -/
  begun : Nat
  /-- The offsets at which a round has ended, as bits. -/
  met : Nat
  /-- The ends found, the last first. -/
  found : List Progress

namespace Loop

/-- Nothing found yet. -/
def new : Loop := ⟨0, 0, []⟩

/-- Adds an end. -/
def add (l : Loop) (s : Progress) : Loop := { l with found := s :: l.found }

/-- Starts a round at a place, and further rounds where it ends; `fuel` bounds
the rounds on one path and `base` is the least offset. -/
def run (step : Progress → List Progress) (greedy : Bool) (base : Nat) :
    (fuel : Nat) → Progress → Loop → Loop
  | 0, _, l => l
  | fuel + 1, s, l =>
    let bit := s.offset - base
    if l.begun.testBit bit then l
    else
      (step s).foldl (fun l t =>
        let bit := t.offset - base
        if l.met.testBit bit then l
        else
          let l := { l with met := l.met ||| 1 <<< bit }
          if greedy then (run step greedy base fuel t l).add t
          else run step greedy base fuel t (l.add t))
        { l with begun := l.begun ||| 1 <<< bit }

/-- Adds an end of a bounded repetition unless there is one at its place. -/
def exit (base width : Nat) (s : Progress) (l : Loop) : Loop :=
  let bit := (s.offset - base) * width
  if l.met.testBit bit then l else { l with met := l.met ||| 1 <<< bit }.add s

/-- The ends of at most `level` further rounds from a place. A place counts once
for every level, and as an end once; there are fewer than `width` levels. -/
def upTo (step : Progress → List Progress) (greedy : Bool) (base width : Nat) :
    (level : Nat) → Progress → Loop → Loop
  | 0, s, l => exit base width s l
  | level + 1, s, l =>
    let bit := (s.offset - base) * width + (level + 1)
    if l.met.testBit bit then l
    else
      let l := { l with met := l.met ||| 1 <<< bit }
      if greedy then exit base width s ((step s).foldl (fun l t => upTo step greedy base width level t l) l)
      else (step s).foldl (fun l t => upTo step greedy base width level t l) (exit base width s l)

end Loop

/-- The ends of one or more rounds from each of several places. -/
def plusEnds (step : Progress → List Progress) (greedy : Bool) (base fuel : Nat)
    (ss : List Progress) : List Progress :=
  (ss.foldl (fun l s => Loop.run step greedy base fuel s l) Loop.new).found.reverse

/-- The ends of a repetition. -/
def repeatEnds (step : Progress → List Progress) (least : Nat) (most : Option Nat) (greedy : Bool)
    (s : Progress) : List Progress :=
  match least, most with
  | 0, none =>
    let ends := plusEnds step greedy s.offset (s.place.rest.length + 1) [s]
    Progress.distinct (if greedy then ends ++ [s] else s :: ends)
  | least + 1, none =>
    plusEnds step greedy s.offset (s.place.rest.length + 1) (rounds step least [s])
  | least, some most =>
    let width := most - least + 1
    ((rounds step least [s]).foldl
      (fun l t => Loop.upTo step greedy s.offset width (most - least) t l) Loop.new).found.reverse

/-! ### Matching -/

/-- The ends of the matches that start where the progress stands, the preferred
first. -/
def ends : Pattern → Progress → List Progress
  | empty, s => [s]
  | chars set, s =>
    match s.place.rest with
    | [] => []
    | c :: cs => if set.holds c then [{ s with place := s.place.step c cs }] else []
  | assertion a, s => if s.place.meets a then [s] else []
  | group name p, s => (ends p s).map fun t => t.keep name s.place
  | cat p q, s => Progress.distinct ((ends p s).flatMap fun t => ends q t)
  | alt p q, s => Progress.distinct (ends p s ++ ends q s)
  | repeated least most greedy p, s => repeatEnds (fun t => ends p t) least most greedy s

/-- The preferred match that starts at a place. -/
def matchAt? (p : Pattern) (place : Place) : Option Progress := (p.ends ⟨place, []⟩).head?

end Pattern

/-- A match of a pattern in a text. -/
structure Occurrence where
  /-- The bytes matched. -/
  span : Span
  /-- The named parts. -/
  captures : Captures
  deriving DecidableEq

namespace Pattern

/-- The occurrence between a place and the end of a match that starts there. -/
def occurrence (start : Place) (stop : Progress) : Occurrence :=
  ⟨Span.between start.offset stop.offset, stop.captures⟩

/-- The match at the first place, from the given one on, at which there is one. -/
def find? (p : Pattern) (before : Option Char) (offset : Nat) : List Char → Option Occurrence
  | [] =>
    let here : Place := ⟨before, offset, []⟩
    (p.matchAt? here).map (occurrence here)
  | c :: cs =>
    let here : Place := ⟨before, offset, c :: cs⟩
    match p.matchAt? here with
    | some stop => some (occurrence here stop)
    | none => find? p (some c) (offset + c.utf8Size) cs

/-- The first match that starts at an offset or later. -/
def findFrom? (p : Pattern) (start : Nat) (before : Option Char) (offset : Nat) :
    List Char → Option Occurrence
  | [] => if start ≤ offset then p.find? before offset [] else none
  | c :: cs =>
    if start ≤ offset then p.find? before offset (c :: cs)
    else findFrom? p start (some c) (offset + c.utf8Size) cs

/-- The first match of a text that starts at a byte offset or later; none behind
the end of the text. -/
def next? (p : Pattern) (text : String) (start : Nat) : Option Occurrence :=
  if text.utf8ByteSize < start then none else p.findFrom? start none 0 text.toList

end Pattern

/-! ### Going on behind a match -/

/-- The character of a text that starts at a byte offset, if one does. -/
def charAt? : (offset : Nat) → List Char → Option Char
  | _, [] => none
  | 0, c :: _ => some c
  | n + 1, c :: cs => if c.utf8Size ≤ n + 1 then charAt? (n + 1 - c.utf8Size) cs else none

/-- The offset from which on the match behind a span is looked for: the end of the
span, or one character further if the span is empty, which at the end of the text
leads behind it. -/
def Span.resume (text : String) (s : Span) : Nat :=
  if !s.isEmpty then s.stop
  else
    match charAt? s.stop text.toList with
    | some c => s.stop + c.utf8Size
    | none => text.utf8ByteSize + 1

end CancellationPolicy
