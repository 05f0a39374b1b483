import CancellationPolicy.Command.Failure

/-! # Scripts

A script is what a command does, step by step: requests to the files, an input, and
lines that are printed or noted beside. It is a value, so that it can be run on a
folder in memory (`Script.run`) as well as on the files of a system.
-/

namespace CancellationPolicy.Command

/-- The steps of a command up to its result. -/
inductive Script (α : Type) where
  /-- Ends with a result. -/
  | done (value : α)
  /-- Ends with a failure. -/
  | fail (failure : Failure)
  /-- Reads a file. -/
  | read (path : String) (next : Except Storage.Error String → Script α)
  /-- Writes a file. -/
  | write (path text : String) (next : Except Storage.Error Unit → Script α)
  /-- Makes the folders around a path. -/
  | makeFoldersAround (path : String) (next : Except Storage.Error Unit → Script α)
  /-- Asks whether there is something at a path. -/
  | holds (path : String) (next : Bool → Script α)
  /-- Reads the whole input. -/
  | input (next : Except Storage.Error String → Script α)
  /-- Prints a line. -/
  | print (line : String) (next : Script α)
  /-- Notes a line beside what is printed. -/
  | note (line : String) (next : Script α)

namespace Script

variable {α β : Type}

/-- Goes on behind the end of a script. -/
def bind : Script α → (α → Script β) → Script β
  | done x, k => k x
  | fail f, _ => fail f
  | read p next, k => read p fun r => (next r).bind k
  | write p t next, k => write p t fun r => (next r).bind k
  | makeFoldersAround p next, k => makeFoldersAround p fun r => (next r).bind k
  | holds p next, k => holds p fun r => (next r).bind k
  | input next, k => input fun r => (next r).bind k
  | print l next, k => print l (next.bind k)
  | note l next, k => note l (next.bind k)

instance : Monad Script where
  pure := done
  bind := bind

/-- The result of a request; a cause is a failure. -/
def orFail {ε : Type} (wrap : ε → Failure) : Except ε α → Script α
  | .ok x => done x
  | .error e => fail (wrap e)

/-! ### Steps -/

/-- Reads a file. -/
def readFile (path : String) : Script (Except Storage.Error String) := read path done

/-- Writes a file. -/
def writeFile (path text : String) : Script (Except Storage.Error Unit) := write path text done

/-- Makes the folders around a path. -/
def makeRoom (path : String) : Script (Except Storage.Error Unit) := makeFoldersAround path done

/-- Asks whether there is something at a path. -/
def isThere (path : String) : Script Bool := holds path done

/-- Reads the whole input. -/
def readInput : Script (Except Storage.Error String) := input done

/-- Prints a line. -/
def printLine (line : String) : Script Unit := print line (done ())

/-- Notes a line. -/
def noteLine (line : String) : Script Unit := note line (done ())

end Script

/-! ### Scripts on folders -/

/-- What a script finds and leaves. -/
structure Session where
  /-- The files. -/
  folder : Storage.Folder
  /-- The input. -/
  input : String
  /-- The lines printed so far. -/
  printed : List String
  /-- The lines noted so far. -/
  noted : List String

namespace Session

/-- A session before the first step. -/
def start (folder : Storage.Folder) (input : String) : Session := ⟨folder, input, [], []⟩

/-- The session with the folder that a request leaves. -/
def settle (s : Session) : Except Storage.Error Storage.Folder → Session × Except Storage.Error Unit
  | .ok folder => ({ s with folder }, .ok ())
  | .error e => (s, .error e)

end Session

/-- Runs a script. The input is empty once it has been read. -/
def Script.run {α : Type} (s : Session) : Script α → Session × Except Failure α
  | done x => (s, .ok x)
  | fail f => (s, .error f)
  | read p next => (next (s.folder.read p)).run s
  | write p t next =>
    let (s, r) := s.settle (s.folder.write p t)
    (next r).run s
  | makeFoldersAround p next =>
    let (s, r) := s.settle (s.folder.makeFoldersAround p)
    (next r).run s
  | holds p next => (next (s.folder.holds p)).run s
  | input next => (next (.ok s.input)).run { s with input := "" }
  | print l next => next.run { s with printed := s.printed ++ [l] }
  | note l next => next.run { s with noted := s.noted ++ [l] }

end CancellationPolicy.Command
