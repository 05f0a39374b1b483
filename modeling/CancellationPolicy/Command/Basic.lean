import CancellationPolicy.Extraction.Basic

/-! # Commands

What can be asked of the program.
-/

namespace CancellationPolicy

/-- How the report of a text is written. -/
inductive Command.Format where
  /-- As a document. -/
  | json
  /-- As a text. -/
  | text
  deriving DecidableEq, Repr

/-- What the extraction from one text is asked for. -/
structure Command.Extract where
  /-- The text. -/
  text : Option String
  /-- The file with the text. -/
  file : Option String
  /-- The file to be written. -/
  output : Option String
  /-- How the report is written. -/
  format : Command.Format
  /-- Whether a summary is asked for. -/
  isSummarized : Bool
  /-- The file of the rules. -/
  rules : Option String
  /-- What makes the extraction usable. -/
  gate : Gate
  deriving DecidableEq, Repr

/-- What the extraction from many records is asked for. -/
structure Command.Batch where
  /-- The file of the records. -/
  inputPath : String
  /-- The file to be written. -/
  output : Option String
  /-- The file of the table to be written. -/
  table : Option String
  /-- The member of a record that holds the text. -/
  textField : String
  /-- Whether summaries are asked for. -/
  isSummarized : Bool
  /-- The file of the rules. -/
  rules : Option String
  /-- What makes an extraction usable. -/
  gate : Gate
  /-- Whether records without text are passed over. -/
  continuesOnError : Bool
  deriving DecidableEq, Repr

/-- What can be asked of the program. -/
inductive Command where
  /-- Extract a policy from a text. -/
  | extract (options : Command.Extract)
  /-- Extract policies from records. -/
  | batch (options : Command.Batch)
  /-- List rules. -/
  | listRules (path : Option String)
  /-- Check rules. -/
  | checkRules (path : Option String)
  /-- Show the settings. -/
  | showSettings
  /-- Write a file of default settings. -/
  | initSettings (output : Option String) (isForced : Bool)
  /-- Show one of the settings. -/
  | getSetting (key : String)
  /-- Show where the settings are kept. -/
  | settingsPath
  deriving DecidableEq, Repr

/-- A command and the file of the settings that it is to use. -/
structure Command.Invocation where
  /-- The file of the settings. -/
  settings : Option String
  /-- The command. -/
  command : Command
  deriving DecidableEq, Repr

end CancellationPolicy
