import CancellationPolicy.Command.Basic
import CancellationPolicy.Command.Switch

/-! # Arguments

The command that the words of a command line ask for. The file of the settings can
be given in front of and behind every command; what stands deepest counts.
-/

namespace CancellationPolicy.Command

/-! ### Grammars -/

/-- The file of the settings. -/
def settingsSwitch : Switch := ⟨"config", some 'c', .text⟩

/-- More messages about what is going on. -/
def verboseSwitch : Switch := ⟨"verbose", some 'v', .counter⟩

/-- The file to be written. -/
def outputSwitch : Switch := ⟨"output", some 'o', .path⟩

/-- The file of the rules. -/
def rulesSwitch : Switch := ⟨"rules", some 'r', .path⟩

/-- Summaries are asked for. -/
def summarySwitch : Switch := ⟨"render", none, .flag⟩

/-- What makes an extraction usable. -/
def gateSwitch : Switch := ⟨"gate", none, .choice ["confidence", "decision"]⟩

/-- The command line as a whole. -/
def mainGrammar : Grammar :=
  ⟨[verboseSwitch, settingsSwitch], ["extract", "batch", "rules", "config"]⟩

/-- Extraction from one text. -/
def extractGrammar : Grammar :=
  ⟨[settingsSwitch, ⟨"file", some 'f', .path⟩, outputSwitch,
    ⟨"format", none, .choice ["json", "text"]⟩, summarySwitch, rulesSwitch, gateSwitch], []⟩

/-- Extraction from many records. -/
def batchGrammar : Grammar :=
  ⟨[settingsSwitch, outputSwitch, ⟨"summary", none, .path⟩, ⟨"text-field", none, .text⟩,
    summarySwitch, rulesSwitch, gateSwitch, ⟨"continue-on-error", none, .flag⟩], []⟩

/-- Commands on rules. -/
def rulesGrammar : Grammar := ⟨[settingsSwitch], ["list", "check"]⟩

/-- Commands on settings. -/
def configGrammar : Grammar := ⟨[settingsSwitch], ["show", "init", "get", "path"]⟩

/-- Making a file of settings. -/
def initGrammar : Grammar := ⟨[settingsSwitch, outputSwitch, ⟨"force", none, .flag⟩], []⟩

/-- A command without switches of its own. -/
def plainGrammar : Grammar := ⟨[settingsSwitch], []⟩

/-! ### Commands -/

/-- The gate that is asked for. -/
def gateOf (f : Found) : Gate :=
  if f.value? "gate" = some "decision" then .decision else .confidence

/-- The only plain word, if there is one; more are an error. -/
def atMostOne? : List String → Option (Option String)
  | [] => some none
  | [word] => some (some word)
  | _ => none

/-- The path in a plain word, which must not be empty. -/
def atMostOnePath? (words : List String) : Option (Option String) :=
  (atMostOne? words).bind fun path => if path = some "" then none else some path

/-- A command and the file of settings given with it. -/
abbrev Reading := Option (Command × Option String)

/-- Reads the words behind a command that has none below it. -/
def readLast? (g : Grammar) (words : List String) (make : Found → Option Command) : Reading :=
  match g.find? .empty none words with
  | some f => (make f).map fun c => (c, f.value? "config")
  | none => none

/-- Reads the words behind a command that has others below it. -/
def readBelow? (g : Grammar) (words : List String) (make : String → List String → Reading) :
    Reading :=
  match g.find? .empty none words with
  | some ⟨switches, ws, some (name, rest)⟩ =>
    (make name rest).map fun (c, settings) =>
      (c, settings.or (Found.value? ⟨switches, ws, none⟩ "config"))
  | _ => none

/-- Extraction from one text. A text excludes a file. -/
def extractOf? (f : Found) : Option Command := do
  let text ← atMostOne? f.words
  let file := f.value? "file"
  if text.isSome && file.isSome then none
  else
    return .extract {
      text, file, output := f.value? "output"
      format := if f.value? "format" = some "text" then .text else .json
      isSummarized := f.has "render", rules := f.value? "rules", gate := gateOf f }

/-- Extraction from many records. -/
def batchOf? (f : Found) : Option Command := do
  let path ← ← atMostOnePath? f.words
  return .batch {
    inputPath := path, output := f.value? "output", table := f.value? "summary"
    textField := (f.value? "text-field").getD "cancellationText"
    isSummarized := f.has "render", rules := f.value? "rules", gate := gateOf f
    continuesOnError := f.has "continue-on-error" }

/-- A command on settings. -/
def configCommand? (name : String) (rest : List String) : Reading :=
  if name = "init" then
    readLast? initGrammar rest fun f =>
      if f.words.isEmpty then some (.initSettings (f.value? "output") (f.has "force")) else none
  else if name = "get" then
    readLast? plainGrammar rest fun f => (atMostOne? f.words).join.map .getSetting
  else
    readLast? plainGrammar rest fun f =>
      if !f.words.isEmpty then none
      else if name = "show" then some .showSettings
      else if name = "path" then some .settingsPath
      else none

/-- A command on rules. -/
def rulesCommand? (name : String) (rest : List String) : Reading :=
  readLast? plainGrammar rest fun f =>
    (atMostOnePath? f.words).map fun path =>
      if name = "list" then .listRules path else .checkRules path

/-- A command. -/
def command? (name : String) (rest : List String) : Reading :=
  if name = "extract" then readLast? extractGrammar rest extractOf?
  else if name = "batch" then readLast? batchGrammar rest batchOf?
  else if name = "rules" then readBelow? rulesGrammar rest rulesCommand?
  else if name = "config" then readBelow? configGrammar rest configCommand?
  else none

/-- The command that the words of a command line ask for; none if they do not
fit. -/
def Invocation.read? (words : List String) : Option Invocation :=
  (readBelow? mainGrammar words command?).map fun (command, settings) => ⟨settings, command⟩

end CancellationPolicy.Command
