import CancellationPolicy.Yaml.Tag

/-! # Tokens

`tokens?` cuts a text into tokens. Structures that are marked by indentation
alone get tokens of their own: the start of a block where a line is indented
deeper, and its end where a line is indented less.

A key of a mapping may be recognised only by the colon behind it. While it is
read, the place of its first token is kept as a candidate
(`Scanner.candidates`), one for every bracket that is open, and the tokens that
announce the key are put there when the colon is met. A candidate must be on one
line with its colon and at most 1024 characters in front of it.
-/

namespace CancellationPolicy.Yaml

/-- A token. -/
inductive Token where
  /-- A directive. -/
  | directive (directive : Directive)
  /-- A document starts. -/
  | documentStart
  /-- A document ends. -/
  | documentEnd
  /-- An indented list starts. -/
  | blockSequenceStart
  /-- An indented mapping starts. -/
  | blockMappingStart
  /-- An indented structure ends. -/
  | blockEnd
  /-- A bracketed list starts. -/
  | flowSequenceStart
  /-- A bracketed list ends. -/
  | flowSequenceEnd
  /-- A bracketed mapping starts. -/
  | flowMappingStart
  /-- A bracketed mapping ends. -/
  | flowMappingEnd
  /-- An item of an indented list follows. -/
  | blockEntry
  /-- A comma. -/
  | flowEntry
  /-- A key follows. -/
  | key
  /-- A value follows. -/
  | value
  /-- A node with an anchor is meant. -/
  | reference (name : String)
  /-- The next node has a name. -/
  | anchor (name : String)
  /-- The next node has a tag. -/
  | tag (tag : Tag)
  /-- A scalar. -/
  | scalar (style : Style) (text : String)
  deriving DecidableEq, Repr

/-- A place where a key may have started. -/
structure Candidate where
  /-- How many tokens are in front of it. -/
  number : Nat
  /-- How many characters are in front of it. -/
  index : Nat
  /-- Its line. -/
  line : Nat
  /-- Its column. -/
  column : Nat
  /-- Whether nothing but a key can stand there. -/
  isRequired : Bool

/-- How far a text has been cut into tokens. -/
structure Scanner where
  /-- The tokens, the last first. -/
  tokens : List Token
  /-- How many tokens there are. -/
  count : Nat
  /-- The place in the text. -/
  cursor : Cursor
  /-- The column of the innermost indented structure, negative outside of all. -/
  indent : Int
  /-- The columns of the indented structures around it. -/
  outer : List Int
  /-- The candidate outside of all brackets. -/
  candidate : Option Candidate
  /-- The candidates inside of open brackets, the innermost first. -/
  candidates : List (Option Candidate)
  /-- Whether a key may start here. -/
  allowsKey : Bool

namespace Scanner

/-- The start of a text. -/
def ofText (cs : List Char) : Scanner := ⟨[], 0, .ofText cs, -1, [], none, [], true⟩

/-- Whether a bracket is open. -/
def inFlow (s : Scanner) : Bool := !s.candidates.isEmpty

/-- The scanner with a further token. -/
def push (s : Scanner) (t : Token) : Scanner :=
  { s with tokens := t :: s.tokens, count := s.count + 1 }

/-- The scanner with a further token in front of the last `behind` ones. -/
def insert (s : Scanner) (behind : Nat) (t : Token) : Scanner :=
  { s with
    tokens := s.tokens.take behind ++ t :: s.tokens.drop behind
    count := s.count + 1 }

/-- The scanner at another place. -/
def moveTo (s : Scanner) (c : Cursor) : Scanner := { s with cursor := c }

/-- The scanner behind some characters, with a token for them. -/
def take (s : Scanner) (n : Nat) (t : Token) : Scanner := (s.moveTo (s.cursor.skip n)).push t

/-! ### Indentation -/

/-- Starts an indented structure at a column deeper than the one around it, its
first token in front of the last `behind` ones. -/
def roll (s : Scanner) (column : Nat) (behind : Nat) (t : Token) : Scanner :=
  if !s.inFlow && s.indent < column then
    { s.insert behind t with indent := column, outer := s.indent :: s.outer }
  else s

/-- Ends the indented structures deeper than a column. -/
def unrollFrom (column : Int) : (indent : Int) → (outer : List Int) → Scanner → Scanner
  | indent, [], s => { s with indent, outer := [] }
  | indent, o :: os, s =>
    if column < indent then unrollFrom column o os (s.push .blockEnd)
    else { s with indent, outer := o :: os }

/-- Ends the indented structures deeper than a column, outside of brackets. -/
def unroll (s : Scanner) (column : Int) : Scanner :=
  if s.inFlow then s else unrollFrom column s.indent s.outer s

/-! ### Candidates -/

/-- The candidate inside of the innermost open bracket. -/
def current (s : Scanner) : Option Candidate :=
  match s.candidates with
  | [] => s.candidate
  | k :: _ => k

/-- Sets the innermost candidate. -/
def setCurrent (s : Scanner) (k : Option Candidate) : Scanner :=
  match s.candidates with
  | [] => { s with candidate := k }
  | _ :: ks => { s with candidates := k :: ks }

/-- Drops the innermost candidate; one that is required is an error. -/
def drop? (s : Scanner) : Option Scanner :=
  match s.current with
  | some k => if k.isRequired then none else some (s.setCurrent none)
  | none => some s

/-- Makes this place a candidate, if a key may start here. -/
def save? (s : Scanner) : Option Scanner :=
  if s.allowsKey then
    let c := s.cursor
    let k : Candidate :=
      ⟨s.count, c.index, c.line, c.column, !s.inFlow && s.indent == (c.column : Int)⟩
    s.drop?.map fun s => s.setCurrent (some k)
  else some s

/-- Whether a candidate is too far away for its colon to stand here. -/
def isStale (c : Cursor) (k : Candidate) : Bool := k.line < c.line || k.index + 1024 < c.index

/-- Drops a candidate that is too far away; one that is required is an error. -/
def refresh? (c : Cursor) : Option Candidate → Option (Option Candidate)
  | none => some none
  | some k => if isStale c k then (if k.isRequired then none else some none) else some (some k)

/-- Drops all candidates that are too far away. -/
def dropStale? (s : Scanner) : Option Scanner :=
  match refresh? s.cursor s.candidate, s.candidates.mapM (refresh? s.cursor) with
  | some k, some ks => some { s with candidate := k, candidates := ks }
  | _, _ => none

/-! ### Steps -/

/-- Moves to the next token, past blanks, comments and line ends. Outside of
brackets, tabs do not count as blanks where a key may start, and a key may start
on every line. A byte order mark may start a line. -/
def toToken : (fuel : Nat) → Scanner → Scanner
  | 0, s => s
  | fuel + 1, s =>
    let c := s.cursor
    let c := if c.column == 0 && c.rest.head? = some '\ufeff' then c.skip 1 else c
    let tabs := s.inFlow || !s.allowsKey
    let c := c.skipWhile fun d => d = ' ' || (tabs && d = '\t')
    let c := if c.rest.head? = some '#' then c.skipWhile (!isBreak ·) else c
    match c.nextLine? with
    | some (_, next) => toToken fuel { s with cursor := next, allowsKey := s.allowsKey || !s.inFlow }
    | none => s.moveTo c

/-- Ends all structures, in front of a mark of a document or at the end. -/
def finish? (s : Scanner) : Option Scanner :=
  (s.unroll (-1)).drop?.map fun s => { s with allowsKey := false }

/-- Opens a bracket. -/
def openFlow? (s : Scanner) (t : Token) : Option Scanner :=
  s.save?.map fun s =>
    { s with candidates := none :: s.candidates, allowsKey := true }.take 1 t

/-- Closes a bracket. -/
def closeFlow? (s : Scanner) (t : Token) : Option Scanner :=
  s.drop?.map fun s => { s with candidates := s.candidates.drop 1, allowsKey := false }.take 1 t

/-- Reads a dash in front of an item. -/
def entry? (s : Scanner) : Option Scanner :=
  if !s.inFlow && !s.allowsKey then none
  else
    (s.roll s.cursor.column 0 .blockSequenceStart).drop?.map fun s =>
      { s with allowsKey := true }.take 1 .blockEntry

/-- Reads a question mark in front of a key. -/
def key? (s : Scanner) : Option Scanner :=
  if !s.inFlow && !s.allowsKey then none
  else
    (s.roll s.cursor.column 0 .blockMappingStart).drop?.map fun s =>
      { s with allowsKey := !s.inFlow }.take 1 .key

/-- Reads a colon, which makes the candidate a key. -/
def value? (s : Scanner) : Option Scanner :=
  match s.current with
  | some k =>
    let behind := s.count - k.number
    let s := (s.insert behind .key).roll k.column (behind + 1) .blockMappingStart
    some ({ s.setCurrent none with allowsKey := false }.take 1 .value)
  | none =>
    if !s.inFlow && !s.allowsKey then none
    else
      let s := s.roll s.cursor.column 0 .blockMappingStart
      some ({ s with allowsKey := !s.inFlow }.take 1 .value)

/-- Reads a part of a node, at which a key may start. -/
def node? (s : Scanner) (read : Cursor → Option (Token × Cursor)) : Option Scanner :=
  match s.save? with
  | none => none
  | some s =>
    (read s.cursor).map fun (t, c) => ({ s with allowsKey := false }.moveTo c).push t

/-- Reads a scalar between quotes. -/
def quotedScalar? (s : Scanner) (quote : Char) : Option Scanner :=
  s.node? fun c =>
    (quoted? quote (c.rest.length + 1) [] (c.skip 1)).map fun (text, c) =>
      (.scalar .quoted (String.ofList text), c)

/-- Reads a block, at which no key can start. -/
def blockScalar? (s : Scanner) (folded : Bool) : Option Scanner :=
  match s.drop? with
  | none => none
  | some s =>
    (block? folded s.indent (s.cursor.skip 1)).map fun (text, c) =>
      ({ s with allowsKey := true }.moveTo c).push
        (.scalar (if folded then .folded else .literal) (String.ofList text))

/-- Reads a plain scalar. A key may start behind it if it ends at the end of a
line. -/
def plainScalar? (s : Scanner) : Option Scanner :=
  match s.save? with
  | none => none
  | some s =>
    (plain? s.inFlow (s.indent + 1).toNat (s.cursor.rest.length + 1) [] .none s.cursor).map
      fun (text, isBroken, c) =>
        ({ s with allowsKey := isBroken }.moveTo c).push (.scalar .plain (String.ofList text))

/-- Whether a plain scalar can start with a character. -/
def startsPlain (flow : Bool) : List Char → Bool
  | [] => false
  | c :: cs =>
    !(isGap c || isBreak c || "-?:,[]\x7b\x7d#&*!|>'\"%@\x60".toList.contains c) ||
      (c = '-' && !cs.head?.any isGap) || (!flow && (c = '?' || c = ':') && !atGap cs)

/-- Reads the next token. -/
def step? (s : Scanner) : Option Scanner :=
  let c := s.cursor
  match c.rest with
  | [] => none
  | d :: rest =>
    -- directives and the marks of documents close all structures that are open
    if c.column == 0 && d = '%' then
      match s.finish? with
      | none => none
      | some s => (Directive.read? (c.skip 1)).map fun (t, c) => (s.moveTo c).push (.directive t)
    else if c.atMark '-' then s.finish?.map (·.take 3 .documentStart)
    else if c.atMark '.' then s.finish?.map (·.take 3 .documentEnd)
    else if d = '[' then s.openFlow? .flowSequenceStart
    else if d = '{' then s.openFlow? .flowMappingStart
    else if d = ']' then s.closeFlow? .flowSequenceEnd
    else if d = '}' then s.closeFlow? .flowMappingEnd
    else if d = ',' then s.drop?.map fun s => { s with allowsKey := true }.take 1 .flowEntry
    else if d = '-' && atGap rest then s.entry?
    else if d = '?' && (s.inFlow || atGap rest) then s.key?
    else if d = ':' && (s.inFlow || atGap rest) then s.value?
    else if d = '*' then
      s.node? fun c => (anchorName? (c.skip 1)).map fun (name, c) => (.reference name, c)
    else if d = '&' then
      s.node? fun c => (anchorName? (c.skip 1)).map fun (name, c) => (.anchor name, c)
    else if d = '!' then s.node? fun c => (Tag.read? s.inFlow c).map fun (t, c) => (.tag t, c)
    else if d = '|' && !s.inFlow then s.blockScalar? false
    else if d = '>' && !s.inFlow then s.blockScalar? true
    else if d = '\'' || d = '"' then s.quotedScalar? d
    else if startsPlain s.inFlow c.rest then s.plainScalar?
    else none

/-- Reads tokens up to the end of the text; `fuel` bounds their count. -/
def run? : (fuel : Nat) → Scanner → Option (List Token)
  | 0, _ => none
  | fuel + 1, s =>
    match (toToken (s.cursor.rest.length + 1) s).dropStale? with
    | none => none
    | some s =>
      let s := s.unroll s.cursor.column
      if s.cursor.rest.isEmpty then s.finish?.map fun s => s.tokens.reverse
      else
        match s.step? with
        | some s => run? fuel s
        | none => none

end Scanner

/-- The tokens of a text. -/
def tokens? (text : String) : Option (List Token) :=
  let cs := text.toList
  if cs.all isAllowed then Scanner.run? (cs.length + 2) (.ofText cs) else none

end CancellationPolicy.Yaml
