import CancellationPolicy.Command.Loading
import CancellationPolicy.Settings.Lookup

/-! # Showing and keeping settings

The settings are shown as a document, or one of them by its key. A file of default
settings can be made.
-/

namespace CancellationPolicy.Command.Settings

open Script

/-- Shows the settings in a file, or the defaults if there is none. -/
def showScript (path : String) : Script Unit := do
  if !(← isThere path) then noteLine "ℹ No config file found, showing defaults."
  let settings ← settingsOrDefault path
  printLine settings.write

/-- Makes a file of default settings. One that is there is kept unless the command
is forced. -/
def initScript (path : String) (isForced : Bool) : Script Unit := do
  if (← isThere path) && !isForced then fail (.settingsPresent path)
  else
    orFail .storage (← makeRoom path)
    orFail (fun e => .load (.storage e)) (← writeFile path CancellationPolicy.Settings.default.write)
    printLine ("✓ Created configuration file at " ++ path)

/-- Shows one of the settings. -/
def getScript (path key : String) : Script Unit := do
  let settings ← settingsOrDefault path
  match settings.lookup? key with
  | some v => printLine v.pretty
  | none => fail (.keyMissing key)

/-- Shows where the settings are kept. -/
def pathScript (path : String) : Script Unit := do
  printLine ("Configuration file: " ++ path)
  if ← isThere path then printLine "Status: exists"
  else
    printLine "Status: not created"
    printLine ""
    printLine "Run 'canx config init' to create a configuration file."

end CancellationPolicy.Command.Settings
