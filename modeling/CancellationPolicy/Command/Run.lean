import CancellationPolicy.Command.Batch
import CancellationPolicy.Command.Extract
import CancellationPolicy.Command.Rules
import CancellationPolicy.Command.Settings

/-! # Running commands

The script of every command, with the file of the settings of the user.
-/

namespace CancellationPolicy.Command

/-- The script of a command. -/
def script (userPath : String) (i : Invocation) : Script Unit :=
  let path := i.settings.getD userPath
  match i.command with
  | .extract o => o.script userPath i.settings
  | .batch o => o.script userPath i.settings
  | .listRules rules => Rules.listScript userPath i.settings rules
  | .checkRules rules => Rules.checkScript userPath i.settings rules
  | .showSettings => Settings.showScript path
  | .initSettings output isForced => Settings.initScript (output.getD userPath) isForced
  | .getSetting key => Settings.getScript path key
  | .settingsPath => Settings.pathScript path

end CancellationPolicy.Command
