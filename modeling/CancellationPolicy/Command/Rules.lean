import CancellationPolicy.Command.Loading

/-! # Listing and checking rules

Rules are listed in the order in which they are applied. A check tells which rules
are disabled.
-/

namespace CancellationPolicy.Command.Rules

open Script

/-- A text behind blanks that fill it up to a width. -/
def padLeft (width : Nat) (s : String) : String :=
  String.ofList (List.replicate (width - s.length) ' ' ++ s.toList)

/-- A text in front of blanks that fill it up to a width. -/
def padRight (width : Nat) (s : String) : String :=
  String.ofList (s.toList ++ List.replicate (width - s.length) ' ')

/-- The lines of a rule. -/
def lines (r : Rule) : List String :=
  let status := if r.isEnabled then "enabled" else "disabled"
  (padLeft 5 (toString r.priority) ++ "  " ++ padRight 24 r.id ++ " " ++ status) ::
    ("       " ++ r.source) ::
    (r.fields.getD []).map fun f => "       " ++ f.path ++ " <- " ++ f.expression.display

/-- Lists rules. -/
def listScript (userPath : String) (given path : Option String) : Script Unit := do
  let settings ← Command.settings userPath given
  let rules ← rulesOf settings path
  printLine ("Rules (" ++ toString rules.rules.length ++ " rules, version " ++ rules.version ++ ")")
  printLine ""
  (rules.rules.flatMap lines).forM printLine

/-- Checks rules. -/
def checkScript (userPath : String) (given path : Option String) : Script Unit := do
  let settings ← Command.settings userPath given
  let path := path.or settings.rulesPath
  let source := path.getD "embedded rules"
  let rules ← orFail (.check source) (← Command.rules path)
  printLine ("✓ " ++ source ++ ": " ++ toString rules.rules.length ++ " rules compiled (version " ++
    rules.version ++ ")")
  let disabled := (rules.rules.filter (!·.isEnabled)).map Rule.id
  if !disabled.isEmpty then
    printLine ("⚠ " ++ toString disabled.length ++
      " rule(s) disabled by a missing or malformed map: " ++ ", ".intercalate disabled)

end CancellationPolicy.Command.Rules
