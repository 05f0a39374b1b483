import CancellationPolicy.Command.Basic
import CancellationPolicy.Command.Loading
import CancellationPolicy.Extraction.Report

/-! # Extraction from one text

The text is given with the command, or stands in a file, or is the input.
-/

namespace CancellationPolicy.Command.Extract

open Script

/-- The text of a command. -/
def readText (o : Extract) : Script String :=
  match o.text, o.file with
  | some text, _ => return text
  | none, some path => do
    if ← isThere path then orFail .storage (← readFile path) else fail (.inputMissing path)
  | none, none => do orFail .storage (← readInput)

/-- A report in a format. -/
def write (r : Report) : Command.Format → String
  | .json => r.toJson.pretty
  | .text => r.toText

/-- Extracts a policy from a text and reports it. -/
def script (userPath : String) (given : Option String) (o : Extract) : Script Unit := do
  let settings ← Command.settings userPath given
  let rules ← rulesOf settings o.rules
  let text ← readText o
  let content := write (.ofText ⟨rules, settings, o.gate, o.isSummarized⟩ text) o.format
  match o.output with
  | some path =>
    orFail .storage (← writeFile path content)
    printLine ("✓ Wrote result to " ++ path)
  | none => printLine content

end CancellationPolicy.Command.Extract
