/-! # Switches

The words of a command line are switches, values of switches and plain words. A
switch has a long name behind two dashes and may have a letter behind one. Letters
can be written together. A value is a word of its own, or stands directly behind a
letter, or behind an equals sign. Two dashes alone end the switches.
-/

namespace CancellationPolicy.Command

/-- What follows a switch. -/
inductive Switch.Kind where
  /-- Nothing. -/
  | flag
  /-- Nothing; the switch may be repeated. -/
  | counter
  /-- A text. -/
  | text
  /-- A text that is not empty. -/
  | path
  /-- One of some texts. -/
  | choice (values : List String)
  deriving DecidableEq, Repr

/-- A switch. -/
structure Switch where
  /-- The long name. -/
  name : String
  /-- The letter. -/
  letter : Option Char
  /-- What follows. -/
  kind : Switch.Kind
  deriving DecidableEq, Repr

namespace Switch

/-- Whether a value follows. -/
def takesValue (s : Switch) : Bool := !(s.kind = .flag || s.kind = .counter)

/-- Whether a value may follow the switch. -/
def accepts (s : Switch) (value : String) : Bool :=
  match s.kind with
  | .flag => false
  | .counter => false
  | .text => true
  | .path => value ≠ ""
  | .choice values => values.contains value

end Switch

/-- What has been found among the words of a command line: switches with their
values, plain words, and a command with the words behind it. -/
structure Found where
  /-- The switches, each with its value. -/
  switches : List (String × String)
  /-- The plain words. -/
  words : List String
  /-- The command and what follows it. -/
  command : Option (String × List String)
  deriving DecidableEq, Repr

namespace Found

/-- Nothing found. -/
def empty : Found := ⟨[], [], none⟩

/-- Adds a switch, which may be repeated only if it counts. -/
def addSwitch? (f : Found) (s : Switch) (value : String) : Option Found :=
  if f.switches.any (·.1 = s.name) && s.kind ≠ .counter then none
  else some { f with switches := f.switches ++ [(s.name, value)] }

/-- Adds a switch with its value. -/
def addValue? (f : Found) (s : Switch) (value : String) : Option Found :=
  if s.accepts value then f.addSwitch? s value else none

/-- Adds a plain word. -/
def addWord (f : Found) (word : String) : Found := { f with words := f.words ++ [word] }

/-- The value of a switch. -/
def value? (f : Found) (name : String) : Option String :=
  (f.switches.find? (·.1 = name)).map Prod.snd

/-- Whether there is a switch. -/
def has (f : Found) (name : String) : Bool := (f.value? name).isSome

end Found

/-- What a command line may hold: switches, and either plain words or one of some
commands. -/
structure Grammar where
  /-- The switches. -/
  switches : List Switch
  /-- The commands; if there are some, there are no plain words. -/
  commands : List String

namespace Grammar

/-- Reads letters behind one dash. A switch whose value is the next word is left
over. -/
def letters? (g : Grammar) (f : Found) : List Char → Option (Found × Option Switch)
  | [] => some (f, none)
  | c :: cs =>
    match g.switches.find? (·.letter = some c) with
    | none => none
    | some s =>
      if s.takesValue then
        match cs with
        | [] => some (f, some s)
        | '=' :: value => (f.addValue? s (String.ofList value)).map fun f => (f, none)
        | value => (f.addValue? s (String.ofList value)).map fun f => (f, none)
      else
        match f.addSwitch? s "" with
        | some f => g.letters? f cs
        | none => none

/-- Reads a long name behind two dashes, with or without a value. A switch whose
value is the next word is left over. -/
def long? (g : Grammar) (f : Found) (cs : List Char) : Option (Found × Option Switch) :=
  let name := cs.takeWhile (· ≠ '=')
  match g.switches.find? (·.name = String.ofList name) with
  | none => none
  | some s =>
    match cs.drop name.length, s.takesValue with
    | [], true => some (f, some s)
    | [], false => (f.addSwitch? s "").map fun f => (f, none)
    | _ :: value, true => (f.addValue? s (String.ofList value)).map fun f => (f, none)
    | _ :: _, false => none

/-- Reads the words of a command line; none if they do not fit. `pending` is a
switch whose value is the next word. -/
def find? (g : Grammar) (f : Found) : (pending : Option Switch) → List String → Option Found
  | some _, [] => none
  | none, [] => some f
  | pending, word :: rest =>
    match word.toList, pending with
    -- behind two dashes alone, all words are plain ones
    | '-' :: '-' :: [], none =>
      if rest.isEmpty then some f
      else if g.commands.isEmpty then some (rest.foldl Found.addWord f)
      else none
    -- a switch that lacks its value
    | '-' :: _ :: _, some _ => none
    | '-' :: '-' :: cs, none =>
      match g.long? f cs with
      | some (f, pending) => g.find? f pending rest
      | none => none
    | '-' :: c :: cs, none =>
      match g.letters? f (c :: cs) with
      | some (f, pending) => g.find? f pending rest
      | none => none
    -- the word is the value of the switch in front of it
    | _, some s =>
      match f.addValue? s word with
      | some f => g.find? f none rest
      | none => none
    | _, none =>
      if g.commands.contains word then some { f with command := some (word, rest) }
      else if g.commands.isEmpty then g.find? (f.addWord word) none rest
      else none

end Grammar

end CancellationPolicy.Command
