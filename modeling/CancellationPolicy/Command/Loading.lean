import CancellationPolicy.Command.Script
import CancellationPolicy.Rule.Shipped

/-! # Loading settings and rules

Settings come from the file that is given, else from the file of the user if there
is one, else they are the defaults. Rules come from the file that is given, else
from the one that the settings name, else they are the shipped ones.
-/

namespace CancellationPolicy.Command

open Script

/-- The settings in a file. -/
def settingsAt (path : String) : Script Settings := do
  match ← readFile path with
  | .error e => fail (.load (.storage e))
  | .ok text => orFail (fun e => .load (.ofSettings e)) (Settings.read text)

/-- The settings in a file, or the defaults if there is none. -/
def settingsOrDefault (path : String) : Script Settings := do
  if ← isThere path then settingsAt path else return .default

/-- The settings of a command. -/
def settings (userPath : String) : (given : Option String) → Script Settings
  | some path => settingsAt path
  | none => settingsOrDefault userPath

/-- The rules in a file, or the shipped ones. -/
def rules : (path : Option String) → Script (Except LoadError RuleSet)
  | none => return RuleSet.shipped?.mapError .rule
  | some path => do
    match ← readFile path with
    | .error e => return .error (.configuration ("cannot read rule file " ++ path ++ ": " ++ e.message))
    | .ok text => return (RuleSet.read (.ofPath path) text).mapError .ofRules

/-- The rules of a command. -/
def rulesOf (s : Settings) (given : Option String) : Script RuleSet := do
  orFail .load (← rules (given.or s.rulesPath))

end CancellationPolicy.Command
