import CancellationPolicy.Pattern.Match
import CancellationPolicy.Pattern.Weight
import CancellationPolicy.Sorting
import CancellationPolicy.Text.Canonical

/-! # Phrases to be passed over

Standard phrases of a text, such as thanks, say nothing about a policy.
`withoutPhrases` puts a blank in place of each: the phrases are looked for in
their canonical form, longer ones first, and only as whole words, so that
`THANK YOU` leaves `THANK YOUR` alone.
-/

namespace CancellationPolicy.Text

/-- The condition that a word starts or ends, in front of or behind a character
that is part of a word. -/
def wordEdgeAt : Option Char → Pattern
  | some c =>
    if Unicode.isAlphanumeric c || c == '_' then .assertion (.word .boundary false) else .empty
  | none => .empty

/-- The pattern of a phrase as whole words. -/
def phrasePattern (phrase : String) : Pattern :=
  let cs := phrase.toList
  .cat (.cat (wordEdgeAt cs.head?) (.text cs)) (wordEdgeAt cs.getLast?)

/-- The largest weight of a pattern of phrases. -/
def phraseLimit : Nat := 10 * Nat.pow 2 20

/-- The pattern of any of several phrases, longer ones preferred; none if there
are no phrases, or more than fit a program. -/
def phrasesPattern? (phrases : List String) : Option Pattern :=
  let tokens := (phrases.map canonical).filter (!·.isEmpty)
  match stableSort (fun s t => t.utf8ByteSize ≤ s.utf8ByteSize) tokens with
  | [] => none
  | tokens =>
    let p := Pattern.oneOf (tokens.map phrasePattern)
    if p.fits phraseLimit then some p else none

/-- The text with a blank in place of every match of a pattern, from the left;
`resume` is the end of the last match. Matches of the empty text do not count. -/
def blankOut (p : Pattern) (resume : Nat) (before : Option Char) (offset : Nat) :
    List Char → List Char
  | [] => []
  | c :: cs =>
    if offset < resume then blankOut p resume (some c) (offset + c.utf8Size) cs
    else
      match p.matchAt? ⟨before, offset, c :: cs⟩ with
      | some stop =>
        if offset < stop.offset then
          ' ' :: blankOut p stop.offset (some c) (offset + c.utf8Size) cs
        else c :: blankOut p resume (some c) (offset + c.utf8Size) cs
      | none => c :: blankOut p resume (some c) (offset + c.utf8Size) cs

/-- The text with a blank in place of every phrase. -/
def withoutPhrases (phrases : List String) (cs : List Char) : List Char :=
  match phrasesPattern? phrases with
  | some p => blankOut p 0 none 0 cs
  | none => cs

end CancellationPolicy.Text
