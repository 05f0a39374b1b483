import CancellationPolicy.Rule.Document
import CancellationPolicy.Settings.Document
import CancellationPolicy.Storage.Folder

/-! # Failures

Why a command ends without success. A failure has a message, and may have a cause
that is told apart from it. What is wrong with the notation of a document or of a
pattern is not said.
-/

namespace CancellationPolicy.Command

/-- Why settings or rules cannot be loaded. -/
inductive LoadError where
  /-- The file cannot be read. -/
  | storage (error : Storage.Error)
  /-- The text is no document of its notation. -/
  | unreadable (format : RuleSet.Format)
  /-- What the settings say cannot be met. -/
  | configuration (text : String)
  /-- The rules are ill-formed. -/
  | rule (error : Rule.Error)
  deriving DecidableEq, Repr

namespace LoadError

/-- What is said of an error. -/
def message : LoadError → String
  | storage e => "I/O error: " ++ e.message
  | unreadable .json => "JSON error"
  | unreadable .yaml => "YAML error"
  | configuration text => "configuration error: " ++ text
  | rule e => "rule error: " ++ e.message

/-- The cause of an error. That of an ill-formed pattern is not said. -/
def cause? : LoadError → Option String
  | storage e => some e.message
  | rule (.invalidPattern _) => none
  | rule e => some e.message
  | _ => none

/-- The error of settings that cannot be read. -/
def ofSettings : Settings.Error → LoadError
  | .unreadable => unreadable .json
  | .fault f => configuration f.message

/-- The error of rules that cannot be read. -/
def ofRules : RuleSet.ReadError → LoadError
  | .unreadable format => unreadable format
  | .rule e => rule e

end LoadError

/-- Why a command fails. -/
inductive Failure where
  /-- A file cannot be read or written. -/
  | storage (error : Storage.Error)
  /-- The table of a batch cannot be written. -/
  | table (error : Storage.Error)
  /-- Settings or rules cannot be loaded. -/
  | load (error : LoadError)
  /-- A file of rules does not pass its check. -/
  | check (source : String) (error : LoadError)
  /-- The input file is missing. -/
  | inputMissing (path : String)
  /-- The input file is no document. -/
  | inputUnreadable
  /-- The input file holds no list. -/
  | inputNoList (path : String)
  /-- A record of a batch has no text. -/
  | record (index : Nat) (reason : String)
  /-- There are settings already. -/
  | settingsPresent (path : String)
  /-- The settings have no value under a key. -/
  | keyMissing (key : String)
  deriving DecidableEq, Repr

namespace Failure

/-- What is said of a failure. -/
def message : Failure → String
  | storage e => e.message
  | table e => e.message
  | load e => e.message
  | check source e => source ++ ": " ++ e.message
  | inputMissing path => "Input file not found: " ++ path
  | inputUnreadable => "(JSON syntax)"
  | inputNoList path => "Expected a JSON array in " ++ path
  | record index reason => "Processing failed at record " ++ toString index ++ ": " ++ reason
  | settingsPresent path =>
    "Config file already exists at " ++ path ++ ". Use --force to overwrite."
  | keyMissing key => "Configuration key not found: " ++ key

/-- The cause of a failure. -/
def cause? : Failure → Option String
  | table e => some e.message
  | load e => e.cause?
  | _ => none

/-- A text of several lines, each behind four blanks. -/
def indented (text : String) : String :=
  String.ofList (text.toList.flatMap fun c => if c = '\n' then "\n    ".toList else [c])

/-- The report of a failure. -/
def report (f : Failure) : String :=
  "Error: " ++ f.message ++
    (match f.cause? with
    | some c => "\n\nCaused by:\n    " ++ indented c
    | none => "")

end Failure

end CancellationPolicy.Command
