import CancellationPolicy.Command.Arguments
import CancellationPolicy.Command.Run

/-! # Program

Runs the command that the words of the command line ask for on the files of the
system.

What a command does is a script of effects (`Command.script`), which says what is
read, written, printed and noted. There are no texts for help, usage and the
version: arguments that fit no command end the program with status 2. Nothing is
logged, so that the switch for more output changes nothing, and no time is
measured. An error says what the program says of it; what a parser of JSON, of
YAML or of patterns has to say in addition is left out.
-/

namespace CancellationPolicy.Main

open Command

/-- The cause of an error of the system. -/
def cause : IO.Error → Storage.Error
  | .noFileOrDirectory .. => .missing
  | .alreadyExists .. => .present
  | .inappropriateType _ code text =>
    if code = 20 then .notFolder else if code = 21 then .isFolder else .other text
  | e => .other (toString e)

/-- The result of an action; an error is a cause. -/
def attempt {α : Type} (action : IO α) : IO (Except Storage.Error α) :=
  try return .ok (← action) catch e => return .error (cause e)

/-- The content of a file. -/
def readFile (path : String) : IO (Except Storage.Error String) := do
  match ← attempt (IO.FS.readBinFile path) with
  | .error e => return .error e
  | .ok bytes =>
    match String.fromUTF8? bytes with
    | some text => return .ok text
    | none => return .error .notText

/-- Makes the folders around a path. -/
def makeFoldersAround (path : String) : IO (Except Storage.Error Unit) :=
  attempt do
    match (Storage.Folder.foldersAround path).head? with
    | some folder => IO.FS.createDirAll folder
    | none => return

/-- Whether there is something at a path. What cannot be opened for another reason
than being missing is there. -/
def holds (path : String) : IO Bool := do
  match ← attempt (IO.FS.Handle.mk path .read) with
  | .ok _ => return true
  | .error e => return e ≠ .missing && e ≠ .notFolder

/-- Runs a script on the files of the system. -/
def run {α : Type} : Script α → IO (Except Failure α)
  | .done x => return .ok x
  | .fail f => return .error f
  | .read p next => do run (next (← readFile p))
  | .write p t next => do run (next (← attempt (IO.FS.writeFile p t)))
  | .makeFoldersAround p next => do run (next (← makeFoldersAround p))
  | .holds p next => do run (next (← holds p))
  | .input next => do
    let stdin ← IO.getStdin
    run (next (← attempt stdin.readToEnd))
  | .print l next => do
    IO.println l
    run next
  | .note l next => do
    IO.eprintln l
    run next

/-- The file of the settings of the user. -/
def userSettings : IO String := do
  let folder ← match ← IO.getEnv "XDG_CONFIG_HOME" with
    | some folder => pure folder
    | none =>
      match ← IO.getEnv "HOME" with
      | some home => pure (home ++ "/.config")
      | none => pure "."
  return folder ++ "/canx/config.json"

end CancellationPolicy.Main

/-- Runs the program. -/
def main (words : List String) : IO UInt32 := do
  match CancellationPolicy.Command.Invocation.read? words with
  | none =>
    IO.eprintln "error: the arguments do not fit any command"
    return 2
  | some invocation =>
    let path ← CancellationPolicy.Main.userSettings
    match ← CancellationPolicy.Main.run (CancellationPolicy.Command.script path invocation) with
    | .ok () => return 0
    | .error f =>
      IO.eprintln f.report
      return 1
